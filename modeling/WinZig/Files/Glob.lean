import WinZig.Files.Pattern
import WinZig.Files.Tree
import WinZig.Text.Blank

/-!
# Paths that match a pattern

A pattern of paths is matched name by name. Directories are listed in the order of their names, and
what cannot be listed matches nothing. A pattern without special characters matches the path it
spells, as it is spelled.

A pattern is refused if a match with the empty name, or with a name in a directory that is listed,
comes to something malformed in it.
-/

namespace WinZig.Files

/-- The paths in a directory whose names match a pattern; none if the pattern is refused. -/
def matchesIn (tree : FileTree) (pattern : List Chunk) (directory : String) :
    Option (List String) :=
  if tree.isDirectory directory then do
    let names ← (tree.list directory).filterM fun name =>
      Pattern.matches? pattern name.toUTF8.toList
    return names.map (Path.join directory)
  else some []

/-- The directory part of a pattern without its last slash. -/
def patternDirectory (pattern : String) : String :=
  match (Path.split pattern).1 with
  | "" => "."
  | "/" => "/"
  | directory => String.ofList directory.toList.dropLast

/-- The paths that match a pattern with at most `depth` slashes; none if it is refused. -/
def globUpTo (tree : FileTree) : (depth : Nat) → (pattern : String) → Option (List String)
  | 0, _ => none
  | depth + 1, pattern => do
    let _ ← Pattern.matches? (Pattern.ofText pattern) []
    if !pattern.toList.any Pattern.isSpecial then
      return if tree.leadsSomewhere pattern then [pattern] else []
    let names := Pattern.ofText (Path.split pattern).2
    let directory := patternDirectory pattern
    if directory.toList.any Pattern.isSpecial then
      return (← (← globUpTo tree depth directory).mapM (matchesIn tree names)).flatten
    else
      matchesIn tree names directory

/-- The paths that match a pattern; none if it is refused. -/
def glob (tree : FileTree) (pattern : String) : Option (List String) :=
  globUpTo tree (pattern.length + 1) pattern

/-- Paths without repetitions, the first of each kept. -/
def addNew (kept : List String) (path : String) : List String :=
  if kept.contains path then kept else kept ++ [path]

/-- The files that match one of some patterns, from the root, each once; or what is said about the
first pattern that is refused. -/
def expand (tree : FileTree) (patterns : String) : Except String (List String) :=
  (Text.fields patterns).foldlM
    (fun kept pattern =>
      match glob tree pattern with
      | none => .error s!"bad pattern {pattern}: syntax error in pattern"
      | some paths =>
        let absolute := paths.map (Path.absolute tree.workingPath)
        .ok ((absolute.filter tree.isFile).foldl addNew kept))
    []

end WinZig.Files
