import Mathlib
import WinZig.Golden.Pool
import WinZig.Proofs.Golden.Selection

/-!
# Testing in any order

The feeder and the workers of a pool take their steps in any order. What is kept by every step is
that nothing is lost: the verdicts given, those on the files being tested and those on the files in
the queue are together the verdicts on the files the feeder has looked at. So there is always room
for what comes next, and a pool is stuck only if it is complete. Every step also brings the end
nearer.

When a run is complete, nothing is being tested and the queue is empty, so the results are the
verdicts on all files, in some order. Listed by file they are the same for every run, and the same
as if one file had been tested after another.
-/

namespace WinZig.Golden

/-! ## Runs -/

namespace Worker

/-- The file a worker is testing. -/
def file? : Worker → Option String
  | busy file => some file
  | idle | gone => none

/-- The files that workers are testing. -/
def inHand (workers : List Worker) : List String := workers.filterMap file?

/-- How many more steps a worker takes at least. -/
def ahead : Worker → Nat
  | busy _ => 2
  | idle => 1
  | gone => 0

/-- A busy worker has its file in hand. -/
theorem inHand_busy (before after : List Worker) (file : String) :
    inHand (before ++ busy file :: after) = inHand before ++ file :: inHand after := by
  rw [inHand, List.filterMap_append, List.filterMap_cons]
  rfl

/-- An idle worker has nothing in hand. -/
theorem inHand_idle (before after : List Worker) :
    inHand (before ++ idle :: after) = inHand before ++ inHand after := by
  rw [inHand, List.filterMap_append, List.filterMap_cons]
  rfl

/-- A worker that has left has nothing in hand. -/
theorem inHand_gone (before after : List Worker) :
    inHand (before ++ gone :: after) = inHand before ++ inHand after := by
  rw [inHand, List.filterMap_append, List.filterMap_cons]
  rfl

end Worker

namespace Pool

open Worker

/-- The files whose tests begin with a step. -/
def taken (pool next : Pool) : List String := (inHand next.workers).diff (inHand pool.workers)

/-- Any number of steps, with the files whose tests have begun. -/
inductive Run (sieve : Sieve) (test : String → Verdict) (room : Nat) (first : Pool) :
    List String → Pool → Prop
  | start : Run sieve test room first [] first
  | step {tests : List String} {pool next : Pool} (run : Run sieve test room first tests pool)
      (step : Step sieve test room pool next) :
      Run sieve test room first (tests ++ taken pool next) next

/-- Without the files at the front the others are left. -/
theorem append_diff_left (front back : List String) : (front ++ back).diff front = back := by
  induction front with
  | nil => exact List.diff_nil _
  | cons file front inductionHypothesis =>
    rw [List.cons_append, List.diff_cons, List.erase_cons_head, inductionHypothesis]

/-- Without themselves no files are left. -/
theorem diff_self (files : List String) : files.diff files = [] := by
  simpa using append_diff_left files []

/-- A step that begins a test takes its file. -/
theorem diff_begun (before after : List String) (file : String) :
    (before ++ file :: after).diff (before ++ after) = [file] := by
  have moved : (before ++ file :: after).Perm ((before ++ after) ++ [file]) :=
    List.perm_middle.trans (List.perm_append_singleton file _).symm
  have begun := moved.diff_right (before ++ after)
  rw [append_diff_left] at begun
  exact List.perm_singleton.mp begun

/-- A step that ends a test takes no file. -/
theorem diff_done (before after : List String) (file : String) :
    (before ++ after).diff (before ++ file :: after) = [] := by
  have moved : (before ++ file :: after).Perm ((before ++ after) ++ [file]) :=
    List.perm_middle.trans (List.perm_append_singleton file _).symm
  rw [moved.diff_left, List.diff_append, diff_self, List.nil_diff]

/-! ## Nothing is lost -/

variable {sieve : Sieve} {test : String → Verdict} {room : Nat}
  {files looked tests : List String} {pool next : Pool}

/-- Where some files stand in a pool. The feeder has looked at some of them; the ones to be tested
are begun in turn, and the verdicts are given, under way or waiting. -/
structure Accounts (sieve : Sieve) (test : String → Verdict) (files looked tests : List String)
    (pool : Pool) : Prop where
  fed : looked ++ pool.files = files
  seen : pool.seen = sieve.seen looked
  begun : tests ++ pool.queue = tested sieve looked
  verdicts : (pool.results ++ (inHand pool.workers ++ pool.queue).map test).Perm
    ((sieve.plans [] looked).map (Plan.verdict test))

/-- At the start no file is looked at and no test begun. -/
theorem accounts_start (sieve : Sieve) (test : String → Verdict) (workers : Int)
    (files : List String) : Accounts sieve test files [] [] (start workers files) where
  fed := rfl
  seen := rfl
  begun := rfl
  verdicts := by simp [start, inHand, file?, Sieve.plans]

/-- A step keeps the accounts. -/
theorem Accounts.step (accounts : Accounts sieve test files looked tests pool)
    (step : Step sieve test room pool next) :
    ∃ looked', Accounts sieve test files looked' (tests ++ taken pool next) next := by
  obtain ⟨fed, known, begun, verdicts⟩ := accounts
  cases step with
  | announce file rest seen queue workers results verdict planned space =>
    dsimp only at fed known begun verdicts
    subst known
    refine ⟨looked ++ [file], ?_, ?_, ?_, ?_⟩
    · rw [List.append_assoc, List.singleton_append, fed]
    · rw [sieve.seen_concat, planned]
      rfl
    · rw [tested_concat, planned, ← begun]
      simp only [taken, diff_self, List.append_nil, Plan.file?, Option.toList]
    · rw [sieve.map_verdict_concat, planned]
      have given := verdicts.append_right [verdict]
      rw [List.append_assoc] at given ⊢
      exact (List.perm_append_comm.append_left results).trans given
  | enqueue file rest seen queue workers results digest planned space =>
    dsimp only at fed known begun verdicts
    subst known
    refine ⟨looked ++ [file], ?_, ?_, ?_, ?_⟩
    · rw [List.append_assoc, List.singleton_append, fed]
    · rw [sieve.seen_concat, planned]
      rfl
    · rw [tested_concat, planned, ← begun]
      simp only [taken, diff_self, List.append_nil, Plan.file?, Option.toList, List.append_assoc]
    · rw [sieve.map_verdict_concat, planned]
      have waiting := verdicts.append_right [test file]
      rw [List.append_assoc, ← List.map_singleton, ← List.map_append, List.append_assoc] at waiting
      exact waiting
  | take rest seen file queue before after results =>
    dsimp only at fed known begun verdicts
    refine ⟨looked, fed, known, ?_, ?_⟩
    · rw [taken, inHand_busy, inHand_idle, diff_begun, ← begun, List.append_assoc]
      rfl
    · rw [inHand_idle] at verdicts
      rw [inHand_busy]
      refine (List.Perm.append_left results (List.Perm.map test ?_)).trans verdicts
      rw [List.append_assoc, List.append_assoc, List.cons_append]
      exact List.perm_middle.symm.append_left (inHand before)
  | report rest seen queue file before after results space =>
    dsimp only at fed known begun verdicts
    refine ⟨looked, fed, known, ?_, ?_⟩
    · rw [taken, inHand_busy, inHand_idle, diff_done, List.append_nil]
      exact begun
    · rw [inHand_busy] at verdicts
      rw [inHand_idle, List.append_assoc, List.singleton_append, ← List.map_cons]
      refine (List.Perm.append_left results (List.Perm.map test ?_)).trans verdicts
      exact List.perm_middle.symm.append_right queue
  | leave seen before after results =>
    dsimp only at fed known begun verdicts
    refine ⟨looked, fed, known, ?_, ?_⟩
    · rw [taken, inHand_gone, inHand_idle, diff_self, List.append_nil]
      exact begun
    · rw [inHand_idle] at verdicts
      rw [inHand_gone]
      exact verdicts

/-- The workers of a pool: there is one, and none has left while there is something to do. -/
structure Staffed (pool : Pool) : Prop where
  manned : pool.workers ≠ []
  stays : .gone ∈ pool.workers → pool.files = [] ∧ pool.queue = []

/-- At the start there is a worker and none has left. -/
theorem staffed_start (workers : Int) (files : List String) : Staffed (start workers files) where
  manned := by simp [start]
  stays := by simp [start]

/-- A step lets a worker leave only when there is nothing to do. -/
theorem Staffed.step (staffed : Staffed pool) (step : Step sieve test room pool next) :
    Staffed next := by
  obtain ⟨manned, stays⟩ := staffed
  cases step with
  | announce file rest seen queue workers results verdict planned space =>
    refine ⟨manned, fun gone => absurd (stays gone).1 (List.cons_ne_nil file rest)⟩
  | enqueue file rest seen queue workers results digest planned space =>
    refine ⟨manned, fun gone => absurd (stays gone).1 (List.cons_ne_nil file rest)⟩
  | take rest seen file queue before after results =>
    refine ⟨by simp, fun gone => ?_⟩
    have stays := (stays (by simpa using gone)).2
    contradiction
  | report rest seen queue file before after results space =>
    exact ⟨by simp, fun gone => stays (by simpa using gone)⟩
  | leave seen before after results => exact ⟨by simp, fun _ => ⟨rfl, rfl⟩⟩

/-- What a run keeps, by what a step keeps. -/
theorem Run.accounts {workers : Int}
    (run : Run sieve test room (Pool.start workers files) tests pool) :
    (∃ looked, Accounts sieve test files looked tests pool) ∧ Staffed pool := by
  induction run with
  | start => exact ⟨⟨[], accounts_start sieve test workers files⟩, staffed_start workers files⟩
  | step run step inductionHypothesis =>
    obtain ⟨⟨looked, accounts⟩, staffed⟩ := inductionHypothesis
    exact ⟨accounts.step step, staffed.step step⟩

/-! ## No run is stuck, and every run ends -/

/-- The files looked at are accounted for one by one. -/
theorem Accounts.length (accounts : Accounts sieve test files looked tests pool) :
    pool.results.length + (inHand pool.workers).length + pool.queue.length = looked.length := by
  have same := accounts.verdicts.length_eq
  simp only [List.length_append, List.length_map, sieve.length_plans] at same
  omega

/-- A complete pool takes no step. -/
theorem not_step_of_isComplete (complete : pool.IsComplete) :
    ¬ ∃ next, Step sieve test room pool next := by
  obtain ⟨fed, gone⟩ := complete
  rintro ⟨next, step⟩
  cases step with
  | announce | enqueue => contradiction
  | take rest seen file queue before after results =>
    exact absurd (gone .idle (by simp)) (by decide)
  | report rest seen queue file before after results space =>
    exact absurd (gone (.busy file) (by simp)) (by simp)
  | leave seen before after results => exact absurd (gone .idle (by simp)) (by decide)

/-- A busy worker can report, as there is room for the verdicts on all files. If no worker is busy
and the feeder is done, a worker that has not left is idle, and it can take a file or leave. -/
theorem exists_step (accounts : Accounts sieve test files looked tests pool)
    (unfinished : ¬ pool.IsComplete) :
    ∃ next, Step sieve test files.length pool next := by
  obtain ⟨rest, seen, queue, workers, results⟩ := pool
  have counted := accounts.length
  have fed := congrArg List.length accounts.fed
  dsimp only at counted fed
  rw [List.length_append] at fed
  by_cases testing : ∃ file, .busy file ∈ workers
  · obtain ⟨file, testing⟩ := testing
    obtain ⟨before, after, rfl⟩ := List.append_of_mem testing
    rw [inHand_busy, List.length_append, List.length_cons] at counted
    exact ⟨_, .report rest seen queue file before after results (by omega)⟩
  cases rest with
  | cons file rest =>
    rw [List.length_cons] at fed
    rcases sieve.plan_cases seen file with ⟨verdict, decided, _⟩ | ⟨digest, _, tested⟩
    · exact ⟨_, .announce file rest seen queue workers results verdict decided (by omega)⟩
    · exact ⟨_, .enqueue file rest seen queue workers results digest tested (by omega)⟩
  | nil =>
    have present : ∃ worker ∈ workers, worker ≠ .gone := by
      by_contra left
      push Not at left
      exact unfinished ⟨rfl, left⟩
    obtain ⟨worker, listed, present⟩ := present
    have idle : .idle ∈ workers := by
      cases worker with
      | idle => exact listed
      | busy file => exact absurd ⟨file, listed⟩ testing
      | gone => contradiction
    obtain ⟨before, after, rfl⟩ := List.append_of_mem idle
    cases queue with
    | cons file queue => exact ⟨_, .take [] seen file queue before after results⟩
    | nil => exact ⟨_, .leave seen before after results⟩

/-- How much is to be done. -/
def ahead (pool : Pool) : Nat :=
  3 * pool.files.length + 2 * pool.queue.length + (pool.workers.map Worker.ahead).sum

/-- Each step leaves less to do. -/
theorem Step.ahead_lt (step : Step sieve test room pool next) : next.ahead < pool.ahead := by
  cases step <;> simp [ahead, Worker.ahead]  <;> omega

/-- Every sequence of steps ends. -/
theorem steps_end (sieve : Sieve) (test : String → Verdict) (room : Nat) :
    WellFounded fun next pool => Step sieve test room pool next :=
  Subrelation.wf Step.ahead_lt (measure ahead).wf

/-! ## Completed runs -/

/-- Workers that have left have nothing in hand. -/
theorem inHand_of_gone {workers : List Worker} (gone : ∀ worker ∈ workers, worker = .gone) :
    inHand workers = [] := by
  rw [inHand, List.filterMap_eq_nil_iff]
  intro worker listed
  rw [gone worker listed]
  rfl

/-- When all workers have left, nothing is under way or waiting. -/
theorem Accounts.complete (accounts : Accounts sieve test files looked tests pool)
    (staffed : Staffed pool) (complete : pool.IsComplete) :
    tests = tested sieve files ∧
      pool.results.Perm ((sieve.plans [] files).map (Plan.verdict test)) := by
  obtain ⟨fed, gone⟩ := complete
  obtain ⟨worker, listed⟩ := List.exists_mem_of_ne_nil _ staffed.manned
  have queue : pool.queue = [] := (staffed.stays (gone worker listed ▸ listed)).2
  have all : looked = files := by simpa [fed] using accounts.fed
  have begun := accounts.begun
  have verdicts := accounts.verdicts
  rw [queue, List.append_nil] at begun
  rw [queue, inHand_of_gone gone, List.append_nil, List.map_nil, List.append_nil] at verdicts
  subst all
  exact ⟨begun, verdicts⟩

/-- The verdicts on some files do not depend on the order in which a pool takes its steps, nor on
the number of its workers. Every run comes to an end, and no run is stuck before it is complete. A
completed run has tested exactly the files that are new after those before them, each once, and its
outcome are the verdicts that are found when one file is tested after another, listed by file. If
the verdict of a test is about the file that is tested, this leaves one list only: it has one
verdict for every file, which is the ruling on that file, and something is wrong exactly if a file
has failed or is an error. -/
theorem run_settles (sieve : Sieve) (test : String → Verdict) (workers : Int)
    {files : List String} (distinct : files.Nodup) :
    (WellFounded fun next pool => Step sieve test files.length pool next) ∧
    ∀ tests pool, Run sieve test files.length (Pool.start workers files) tests pool →
      ((∃ next, Step sieve test files.length pool next) ↔ ¬ pool.IsComplete) ∧
      (pool.IsComplete →
        tests.Nodup ∧
        (∀ file, file ∈ tests ↔
          ∃ before after, files = before ++ file :: after ∧ sieve.IsNew before file) ∧
        (pool.outcome.Pairwise fun first second => first.file ≤ second.file) ∧
        pool.outcome.Perm (verdicts sieve test files) ∧
        ((∀ file, (test file).file = file) →
          pool.outcome = verdicts sieve test files ∧ sieve.Settles test files pool.outcome)) := by
  refine ⟨steps_end sieve test files.length, fun tests pool run => ?_⟩
  obtain ⟨⟨looked, accounts⟩, staffed⟩ := run.accounts
  refine ⟨⟨fun step complete => not_step_of_isComplete complete step, exists_step accounts⟩,
    fun complete => ?_⟩
  obtain ⟨rfl, given⟩ := accounts.complete staffed complete
  refine ⟨tested_nodup distinct, fun file => mem_tested distinct, inOrder_pairwise _, ?_, ?_⟩
  · rw [verdicts_eq_map]
    exact (inOrder_perm _).trans (given.trans (inOrder_perm _).symm)
  · intro named
    have names : (pool.results.map Verdict.file).Nodup := by
      rw [(given.map Verdict.file).nodup_iff, Sieve.map_verdict_file named]
      exact distinct
    have same : pool.outcome = verdicts sieve test files := by
      rw [verdicts_eq_map]
      exact inOrder_eq_of_perm given names
    exact ⟨same, same ▸ verdicts_settle named distinct⟩

/-- Two files have one content, one is to be skipped and one cannot be read. -/
def mixedSieve : Sieve where
  skipped file := file == "c"
  digest file := if file = "d" then .error ⟨"open", file, .missing⟩ else .ok "1"

/-- The verdicts of a suite that has nothing to compare a file with. -/
def emptyJudge (file : String) : Verdict :=
  SuiteOptions.judge {} { tree := { entries := [] }, commands := [], run := fun _ _ => {} } file
    .nothing

/-- The end of a run in which the first file is tested while the feeder goes on. -/
def mixedEnd : Pool where
  files := []
  seen := [("1", "a")]
  workers := [.gone]
  results := [
    { file := "b", status := .skip, message := "Content is identical to a" },
    { file := "c", status := .skip, message := "Explicitly skipped" },
    emptyJudge "a",
    { file := "d", status := .error
      message := "Failed to read file for hashing: open d: no such file or directory" }]

/-- The run gets there: each of its steps is one that a pool may take. -/
theorem mixedEnd_reached :
    Run mixedSieve emptyJudge 4 (Pool.start (-3) ["a", "b", "c", "d"]) ["a"] mixedEnd := by
  have fed : Run mixedSieve emptyJudge 4 (Pool.start (-3) ["a", "b", "c", "d"]) _ _ :=
    Run.start.step (.enqueue "a" ["b", "c", "d"] [] [] [.idle] [] "1" rfl (by decide))
  have taken := fed.step (.take ["b", "c", "d"] [("1", "a")] "a" [] [] [] [])
  have skipped := taken.step
    (.announce "b" ["c", "d"] [("1", "a")] [] [.busy "a"] [] _ rfl (by decide))
    |>.step (.announce "c" ["d"] [("1", "a")] [] [.busy "a"] _ _ rfl (by decide))
  have reported := skipped.step (.report ["d"] [("1", "a")] [] "a" [] [] _ (by decide))
    |>.step (.announce "d" [] [("1", "a")] [] [.idle] _ _ rfl (by decide))
  exact reported.step (.leave [("1", "a")] [] [] _)

/-- There is one worker, although fewer than none are asked for. -/
theorem run_settles_mixedSieve :
    mixedEnd.IsComplete ∧
      mixedEnd.outcome = verdicts mixedSieve emptyJudge ["a", "b", "c", "d"] ∧
      mixedEnd.outcome.map Verdict.file = ["a", "b", "c", "d"] ∧
      hasFailures mixedEnd.outcome = true := by
  have complete : mixedEnd.IsComplete := ⟨rfl, by simp [mixedEnd]⟩
  have distinct : ["a", "b", "c", "d"].Nodup := by decide
  obtain ⟨_, runs⟩ := run_settles mixedSieve emptyJudge (-3) distinct
  obtain ⟨_, _, _, _, settled⟩ := (runs ["a"] mixedEnd mixedEnd_reached).2 complete
  obtain ⟨same, settled⟩ := settled fun file => SuiteOptions.judge_file ..
  refine ⟨complete, same, ?_, ?_⟩
  · rw [same]
    cbv
  · rw [settled.failures]
    exact ⟨["a", "b", "c"], "d", [], _, rfl, .unreadable _ rfl rfl, .inr rfl⟩

/-- All files are to be tested. -/
def apartSieve : Sieve where
  skipped _ := false
  digest file := .ok file

/-- A test whose verdicts are never about the file that is tested: one file fails, the others pass,
and all of them under one name. -/
def misnaming (file : String) : Verdict :=
  { file := "x", status := if file = "a" then .fail else .pass }

/-- The end of a run on two files, with the verdicts on them in the order in which they came. -/
def misnamedEnd (first second : String) : Pool where
  files := []
  seen := [("b", "b"), ("a", "a")]
  workers := [.gone, .gone]
  results := [misnaming first, misnaming second]

/-- Both workers have a file, and no verdict has been given. -/
theorem misnamed_taken :
    Run apartSieve misnaming 2 (Pool.start 2 ["a", "b"]) ["a", "b"]
      ⟨[], [("b", "b"), ("a", "a")], [], [.busy "a", .busy "b"], []⟩ := by
  have fed : Run apartSieve misnaming 2 (Pool.start 2 ["a", "b"]) _ _ :=
    Run.start.step (.enqueue "a" ["b"] [] [] [.idle, .idle] [] "a" rfl (by decide))
      |>.step (.enqueue "b" [] [("a", "a")] ["a"] [.idle, .idle] [] "b" rfl (by decide))
  exact fed.step (.take [] _ "a" ["b"] [] [.idle] [])
    |>.step (.take [] _ "b" [] [.busy "a"] [] [])

/-- Where verdicts are not about the files that are tested, runs differ: two runs on the same two
files, one of which fails, end with different lists, and in one of them the failure is lost. -/
theorem misnamed_verdicts_collide :
    (misnaming "a").status = .fail ∧
      (Run apartSieve misnaming 2 (Pool.start 2 ["a", "b"]) ["a", "b"] (misnamedEnd "a" "b") ∧
        (misnamedEnd "a" "b").IsComplete ∧ hasFailures (misnamedEnd "a" "b").outcome = false) ∧
      (Run apartSieve misnaming 2 (Pool.start 2 ["a", "b"]) ["a", "b"] (misnamedEnd "b" "a") ∧
        (misnamedEnd "b" "a").IsComplete ∧ hasFailures (misnamedEnd "b" "a").outcome = true) ∧
      (misnamedEnd "a" "b").outcome ≠ (misnamedEnd "b" "a").outcome := by
  have complete (first second : String) : (misnamedEnd first second).IsComplete :=
    ⟨rfl, by simp [misnamedEnd]⟩
  have lost : hasFailures (misnamedEnd "a" "b").outcome = false := by cbv
  have kept : hasFailures (misnamedEnd "b" "a").outcome = true := by cbv
  have different : (misnamedEnd "a" "b").outcome ≠ (misnamedEnd "b" "a").outcome := by
    intro same
    rw [same, kept] at lost
    cases lost
  refine ⟨rfl, ⟨?_, complete _ _, lost⟩, ⟨?_, complete _ _, kept⟩, different⟩
  · have given := misnamed_taken.step (.report [] _ [] "a" [] [.busy "b"] [] (by decide))
      |>.step (.report [] _ [] "b" [.idle] [] _ (by decide))
    exact given.step (.leave _ [] [.idle] _) |>.step (.leave _ [.gone] [] _)
  · have given := misnamed_taken.step (.report [] _ [] "b" [.busy "a"] [] [] (by decide))
      |>.step (.report [] _ [] "a" [] [.idle] _ (by decide))
    exact given.step (.leave _ [] [.idle] _) |>.step (.leave _ [.gone] [] _)

end Pool

end WinZig.Golden
