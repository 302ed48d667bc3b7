/-!
# Paths

Paths are texts with slashes between names. Operations here are on the text alone: no file is looked
at, so a name followed by two points cancels whatever the name stands for.
-/

namespace WinZig.Path

/-- The names between the slashes of a path; an empty one for each slash too many. -/
def names (path : String) : List String := (path.toList.splitOn '/').map String.ofList

/-- Whether a path starts at the root. -/
def isAbsolute (path : String) : Bool := path.toList.head? == some '/'

/-- The names kept so far, the last one first, after one more name. Empty names and single points
say nothing; two points cancel the name before them, stay if there is none, and say nothing at the
root. -/
def reduceStep (rooted : Bool) (kept : List String) (name : String) : List String :=
  if name = "" ∨ name = "." then kept
  else if name = ".." then
    match kept with
    | [] => if rooted then [] else [".."]
    | last :: rest => if last = ".." then ".." :: kept else rest
  else name :: kept

/-- The shortest path with the same names after cancelling. -/
def clean (path : String) : String :=
  let rooted := isAbsolute path
  let kept := String.intercalate "/" ((names path).foldl (reduceStep rooted) []).reverse
  if rooted then "/" ++ kept else if kept = "" then "." else kept

/-- Two paths, one below the other. -/
def join (parent path : String) : String :=
  if parent = "" then if path = "" then "" else clean path else clean (parent ++ "/" ++ path)

/-- What stands before the last slash, the slash included, and what stands behind it. -/
def split (path : String) : String × String :=
  let file := (path.toList.reverse.takeWhile (· != '/')).reverse
  (String.ofList (path.toList.take (path.toList.length - file.length)), String.ofList file)

/-- The last name of a path. -/
def base (path : String) : String :=
  if path = "" then "." else
  let trimmed := (path.toList.reverse.dropWhile (· == '/')).reverse
  if trimmed.isEmpty then "/" else (split (String.ofList trimmed)).2

/-- All but the last name of a path. -/
def directory (path : String) : String := clean (split path).1

/-- A path from the root, given the directory relative paths start at. -/
def absolute (working path : String) : String :=
  if isAbsolute path then clean path else join working path

end WinZig.Path
