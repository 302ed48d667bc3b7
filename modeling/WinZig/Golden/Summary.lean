import WinZig.Files.Path
import WinZig.Golden.Location
import WinZig.Golden.Result
import WinZig.Text.Blank
import WinZig.Text.Ratio

/-!
# The summary of a test run

Every file is shown with its verdict, then the counts, and then which of the two compilers took less
time on average, if both took any. Durations are whole numbers of nanoseconds in sixty-four bits.
-/

namespace WinZig.Golden

/-- Colours of a terminal. -/
inductive Paint where
  | red
  | yellow
  | green
  | cyan
  | magenta
  | bold
  | none
deriving DecidableEq, Repr

/-- The sequence that starts a colour. -/
def Paint.start : Paint → String
  | red => "\x1b[91m"
  | yellow => "\x1b[93m"
  | green => "\x1b[92m"
  | cyan => "\x1b[96m"
  | magenta => "\x1b[95m"
  | bold => "\x1b[1m"
  | none => "\x1b[0m"

/-- A text in a colour. -/
def paint (color : Paint) (text : String) : String := color.start ++ text ++ Paint.none.start

/-- An integer in at least six columns. -/
def sixColumns (number : Int) : String :=
  let written := toString number
  String.ofList (List.replicate (6 - written.length) ' ') ++ written

/-- A duration in microseconds, or in milliseconds if there is at least one. -/
def durationText (nanoseconds : Int) : String :=
  if nanoseconds < 1000000 then sixColumns (nanoseconds.tdiv 1000) ++ "µs"
  else sixColumns (nanoseconds.tdiv 1000000) ++ "ms"

/-- A line of a difference, in the colour of its side. -/
def diffLine (line : String) : String :=
  let color := match Text.trim line.toList with
    | '-' :: _ => Paint.red.start
    | '+' :: _ => Paint.green.start
    | _ => ""
  color ++ "    " ++ line ++ Paint.none.start ++ "\n"

/-- A difference, line by line. -/
def diffText (diff : String) : String :=
  if diff = "" then "" else "    --- Diff ---\n" ++ String.join ((lines diff).map diffLine)

/-- What the summary says about the two compilers. -/
structure Contest where
  targetName : String
  referenceName : String
  verbose : Bool

namespace Contest

/-- The compilers by the last names of their paths. Without a reference compiler, results are
compared with golden ones. -/
def ofPaths (target reference : String) (verbose : Bool) : Contest where
  targetName := Path.base target
  referenceName := if reference = "" then "golden" else Path.base reference
  verbose

/-- How long each compiler took on a file, the faster one marked. -/
def timesText (contest : Contest) (target reference : Execution) : String :=
  let mark (mine other : Execution) : String :=
    paint (if mine.duration < other.duration then .magenta else .none) (durationText mine.duration)
  s!"  [{contest.targetName}: {mark target reference} | " ++
    s!"{contest.referenceName}: {mark reference target}]\n"

end Contest

/-- The line between files. -/
def separator : String := String.ofList (List.replicate 70 '-') ++ "\n"

/-- The line on the status of a file. -/
def statusText (verdict : Verdict) : String :=
  let line (color : Paint) : String :=
    s!"  [{paint color verdict.status.name}] {verdict.message}\n"
  match verdict.status with
  | .pass => line .green
  | .fail => line .red ++ diffText verdict.diff ++ "\n"
  | .skip => line .yellow
  | .error => line .red
  | .other _ => ""

/-- The lines on a file. -/
def verdictText (contest : Contest) (verdict : Verdict) : String :=
  let times := match verdict.target, verdict.reference with
    | some target, some reference =>
      if contest.verbose then
        contest.timesText target.result reference.result ++
          String.join (target.diagnostics.map fun line => s!"    {line}\n")
      else ""
    | _, _ => ""
  separator ++ s!"Testing {paint .cyan verdict.file}...\n" ++ statusText verdict ++ times

/-- The number of verdicts with a status. -/
def countOf (status : Status) (verdicts : List Verdict) : Nat :=
  verdicts.countP fun verdict => verdict.status = status

/-- The line with the counts. -/
def countsText (verdicts : List Verdict) : String :=
  let count (color : Paint) (status : Status) (noun : String) : String :=
    paint color s!"{countOf status verdicts} {noun}"
  let passed := count .green .pass "Passed"
  let failed := count .red .fail "Failed"
  let skipped := count .yellow .skip "Skipped"
  let errored := count .red .error "Errored"
  let title := paint .bold "Test Summary:"
  s!"{title} {passed}, {failed}, {skipped}, {errored}, {verdicts.length} Total\n"

/-- A number in sixty-four bits with a sign. -/
def wrapped (number : Int) : Int := number.bmod (Nat.pow 2 64)

/-- The sum of some durations. -/
def total (durations : List Int) : Int := durations.foldl (fun sum next => wrapped (sum + next)) 0

/-- The pairs of results that were compared. -/
def compared (verdicts : List Verdict) : List (CompileResult × CompileResult) :=
  verdicts.filterMap fun verdict =>
    match verdict.target, verdict.reference with
    | some target, some reference => some (target, reference)
    | _, _ => none

/-- Which compiler was faster on average. -/
def speedText (contest : Contest) (verdicts : List Verdict) : String :=
  let pairs := compared verdicts
  let target := total (pairs.map fun pair => pair.1.result.duration)
  let reference := total (pairs.map fun pair => pair.2.result.duration)
  if pairs.isEmpty ∨ target ≤ 0 ∨ reference ≤ 0 then "" else
  let target := target.toNat / pairs.length
  let reference := reference.toNat / pairs.length
  let line (color : Paint) (ratio word : String) : String :=
    let name := paint .bold contest.targetName
    let times := paint color s!"{ratio}x"
    s!"On average, {name} was {times} {word} than {contest.referenceName}.\n"
  "---\n" ++
    if reference < target then line .red (Text.ratio target reference) "slower"
    else if target < reference then line .green (Text.ratio reference target) "faster"
    else ""

/-- The summary of some verdicts. -/
def summary (contest : Contest) (verdicts : List Verdict) : String :=
  String.join (verdicts.map (verdictText contest)) ++ separator ++ countsText verdicts ++
    speedText contest verdicts

end WinZig.Golden
