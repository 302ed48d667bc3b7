import WinZig.Files.Path

/-!
# File trees

A file tree holds directories and files by the names on the way to them from the root, and has a
working directory where relative paths start. Operations follow a path name by name, and every name
but the last must lead to a directory.
-/

namespace WinZig

/-- Why a path leads nowhere. -/
inductive PathProblem where
  | missing
  | notDirectory
  | isDirectory
  | occupied
  | invalid
  | tooLong
deriving DecidableEq, Repr

/-- How a problem reads. -/
def PathProblem.message : PathProblem → String
  | missing => "no such file or directory"
  | notDirectory => "not a directory"
  | isDirectory => "is a directory"
  | occupied => "file exists"
  | invalid => "invalid argument"
  | tooLong => "file name too long"

/-- A failed operation on a path. -/
structure FileError where
  operation : String
  path : String
  problem : PathProblem
deriving DecidableEq, Repr

/-- How a failed operation reads. -/
def FileError.message (error : FileError) : String :=
  s!"{error.operation} {error.path}: {error.problem.message}"

/-- What a path leads to. -/
inductive FileNode where
  | directory
  | file (content : List UInt8)
deriving DecidableEq, Repr

/-- Directories and files by their names from the root. -/
structure FileTree where
  entries : List (List String × FileNode)
  /-- The names from the root to the directory where relative paths start. -/
  working : List String := []
deriving Repr

namespace FileTree

/-- What stands at some names from the root. The root is a directory, and so is everything on the way
to an entry or to the working directory. -/
def node? (tree : FileTree) (names : List String) : Option FileNode :=
  match tree.entries.find? fun entry => entry.1 == names with
  | some entry => some entry.2
  | none =>
    if (tree.working :: tree.entries.map Prod.fst).any names.isPrefixOf then some .directory
    else none

/-- The number of bytes a name may have. -/
def longestName : Nat := 255

/-- The number of bytes a path may have. -/
def longestPath : Nat := 4095

/-- Follows the names of a path from a directory. -/
def follow (tree : FileTree) (place : List String) : List String → Except PathProblem (List String)
  | [] => .ok place
  | name :: rest =>
    match tree.node? place with
    | none => .error .missing
    | some (.file _) => .error .notDirectory
    | some .directory =>
      if name = "" ∨ name = "." then tree.follow place rest
      else if name = ".." then tree.follow place.dropLast rest
      else if longestName < name.utf8ByteSize then .error .tooLong
      else tree.follow (place ++ [name]) rest

/-- Where a path leads, whether or not something stands there. -/
def place (tree : FileTree) (path : String) : Except PathProblem (List String) :=
  if path = "" then .error .missing
  else if path.toList.contains '\x00' then .error .invalid
  else if longestPath < path.utf8ByteSize then .error .tooLong
  else tree.follow (if Path.isAbsolute path then [] else tree.working) (Path.names path)

/-- What a path leads to. -/
def find (tree : FileTree) (path : String) : Except PathProblem FileNode := do
  match tree.node? (← tree.place path) with
  | some node => .ok node
  | none => .error .missing

/-- Whether a path leads to something. -/
def leadsSomewhere (tree : FileTree) (path : String) : Bool := (tree.find path).isOk

/-- Whether a path leads to a file. -/
def isFile (tree : FileTree) (path : String) : Bool :=
  match tree.find path with
  | .ok (.file _) => true
  | _ => false

/-- Whether a path leads to a directory. -/
def isDirectory (tree : FileTree) (path : String) : Bool :=
  match tree.find path with
  | .ok .directory => true
  | _ => false

/-- The content of a file. -/
def read (tree : FileTree) (path : String) : Except FileError (List UInt8) :=
  match tree.find path with
  | .ok (.file content) => .ok content
  | .ok .directory => .error ⟨"read", path, .isDirectory⟩
  | .error problem => .error ⟨"open", path, problem⟩

/-- A tree with a node at some names. -/
def put (tree : FileTree) (names : List String) (node : FileNode) : FileTree :=
  { tree with entries := tree.entries.filter (fun entry => entry.1 != names) ++ [(names, node)] }

/-- A path without the slashes at its end. -/
def withoutLastSlashes (path : String) : String :=
  String.ofList (path.toList.reverse.dropWhile (· == '/')).reverse

/-- Where a file to be written stands. A path with a slash at its end asks for a directory. -/
def filePlace (tree : FileTree) (path : String) : Except PathProblem (List String) :=
  let stripped := withoutLastSlashes path
  if stripped = path ∨ stripped = "" then tree.place path
  else match tree.place stripped with
    | .ok _ => .error .isDirectory
    | .error problem => .error problem

/-- A tree in which a file has a given content. Its directory must be there. -/
def write (tree : FileTree) (path : String) (content : List UInt8) : Except FileError FileTree :=
  match tree.filePlace path with
  | .error problem => .error ⟨"open", path, problem⟩
  | .ok names =>
    match tree.node? names, tree.node? names.dropLast with
    | some .directory, _ => .error ⟨"open", path, .isDirectory⟩
    | some (.file _), _ | none, some .directory => .ok (tree.put names (.file content))
    | none, some (.file _) => .error ⟨"open", path, .notDirectory⟩
    | none, none => .error ⟨"open", path, .missing⟩

/-- A tree with one more directory, in a directory that is there. -/
def makeDirectory (tree : FileTree) (path : String) : Except FileError FileTree :=
  match tree.place (withoutLastSlashes path) with
  | .error problem => .error ⟨"mkdir", path, problem⟩
  | .ok names =>
    match tree.node? names, tree.node? names.dropLast with
    | some _, _ => .error ⟨"mkdir", path, .occupied⟩
    | none, some .directory => .ok (tree.put names .directory)
    | none, some (.file _) => .error ⟨"mkdir", path, .notDirectory⟩
    | none, none => .error ⟨"mkdir", path, .missing⟩

/-- The path up to the slash before its last name; empty if there is none. -/
def parentPath (path : String) : String :=
  (Path.split (withoutLastSlashes path)).1

/-- A tree with a directory and all directories on the way to it, at most `depth` of them missing. -/
def makeDirectoriesUpTo (tree : FileTree) : (depth : Nat) → String → Except FileError FileTree
  | 0, _ => .ok tree
  | depth + 1, path =>
    match tree.find path with
    | .ok .directory => .ok tree
    | .ok (.file _) => .error ⟨"mkdir", path, .notDirectory⟩
    | .error _ => do
      let parent := parentPath path
      let tree ← if parent = "" then .ok tree else tree.makeDirectoriesUpTo depth parent
      match tree.makeDirectory path with
      | .ok tree => .ok tree
      | .error error => if tree.isDirectory path then .ok tree else .error error

/-- A tree with a directory and all directories on the way to it. -/
def makeDirectories (tree : FileTree) (path : String) : Except FileError FileTree :=
  tree.makeDirectoriesUpTo (path.length + 1) path

/-- The names in a directory, in order. -/
def list (tree : FileTree) (path : String) : List String :=
  match tree.place path with
  | .error _ => []
  | .ok names =>
    let below := (tree.working :: tree.entries.map Prod.fst).filterMap fun entry =>
      if names.isPrefixOf entry then entry[names.length]? else none
    below.eraseDups.mergeSort fun first second => decide (first ≤ second)

/-- The path of the working directory. -/
def workingPath (tree : FileTree) : String := "/" ++ String.intercalate "/" tree.working

end FileTree

end WinZig
