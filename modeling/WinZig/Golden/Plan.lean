import WinZig.Files.Tree
import WinZig.Golden.Result

/-!
# Which files are tested

Files are looked at one after another. A file that is to be skipped is not tested, nor is one that
cannot be read, nor one with the content of an earlier file, where contents are told apart by their
digests. Verdicts are listed in the order of their files, so the order in which files are tested does
not show.
-/

namespace WinZig.Golden

/-- What is to be done with a file. -/
inductive Plan where
  | test (file digest : String)
  | decided (verdict : Verdict)
deriving DecidableEq, Repr

/-- How a suite tells files apart. -/
structure Sieve where
  /-- Whether a file is to be skipped. -/
  skipped : String → Bool
  /-- The digest of a file. -/
  digest : String → Except FileError String

namespace Sieve

/-- What is to be done with a file after others. `seen` holds the files to be tested by their
digests. -/
def plan (sieve : Sieve) (seen : List (String × String)) (file : String) : Plan :=
  if sieve.skipped file then
    .decided { file, status := .skip, message := "Explicitly skipped" }
  else match sieve.digest file with
    | .error error =>
      .decided { file, status := .error
                 message := s!"Failed to read file for hashing: {error.message}" }
    | .ok digest =>
      match seen.lookup digest with
      | some earlier =>
        .decided { file, status := .skip, message := s!"Content is identical to {earlier}" }
      | none => .test file digest

/-- The files to be tested after one more plan. -/
def remember (seen : List (String × String)) : Plan → List (String × String)
  | .test file digest => (digest, file) :: seen
  | .decided _ => seen

/-- What is to be done with some files after others. -/
def plans (sieve : Sieve) (seen : List (String × String)) : List String → List Plan
  | [] => []
  | file :: rest =>
    let plan := sieve.plan seen file
    plan :: sieve.plans (remember seen plan) rest

end Sieve

/-- Verdicts in the order of their files. -/
def inOrder (verdicts : List Verdict) : List Verdict :=
  verdicts.mergeSort fun first second => decide (first.file ≤ second.file)

/-- The files that are tested. -/
def tested (sieve : Sieve) (files : List String) : List String :=
  (sieve.plans [] files).filterMap fun plan =>
    match plan with
    | .test file _ => some file
    | .decided _ => none

/-- The verdicts on some files. -/
def verdicts (sieve : Sieve) (test : String → Verdict) (files : List String) : List Verdict :=
  inOrder <| (sieve.plans [] files).map fun plan =>
    match plan with
    | .test file _ => test file
    | .decided verdict => verdict

end WinZig.Golden
