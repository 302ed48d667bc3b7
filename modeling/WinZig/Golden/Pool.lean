import WinZig.Golden.Plan

/-!
# A pool of workers

The files of a suite are tested by several workers at once. A feeder goes through the files: it puts
a file that is to be tested into a queue, and the verdict on any other file straight among the
results. A worker takes a file from the queue, tests it and puts the verdict among the results; it
leaves when the queue is empty and nothing more will come. Queue and results have room for as many
entries as there are files, and who finds no room waits.

A step is a step of the feeder or of any worker, in any order. What a completed run amounts to are its
results in the order of their files.
-/

namespace WinZig.Golden

/-- What a worker is doing. -/
inductive Worker where
  | idle
  | busy (file : String)
  | gone
deriving DecidableEq, Repr

/-- A feeder, a queue, workers and results. -/
structure Pool where
  /-- The files the feeder has not looked at. -/
  files : List String
  /-- The files put into the queue so far, by their digests. -/
  seen : List (String × String) := []
  queue : List String := []
  workers : List Worker
  results : List Verdict := []
deriving DecidableEq, Repr

namespace Pool

/-- A pool before its first step. There is always at least one worker. -/
def start (workers : Int) (files : List String) : Pool where
  files
  workers := List.replicate (max 1 workers.toNat) .idle

/-- One step of a pool whose queue and results have room for `room` entries. -/
inductive Step (sieve : Sieve) (test : String → Verdict) (room : Nat) : Pool → Pool → Prop
  | announce (file : String) (rest : List String) (seen : List (String × String))
      (queue : List String) (workers : List Worker) (results : List Verdict) (verdict : Verdict)
      (planned : sieve.plan seen file = .decided verdict) (space : results.length < room) :
      Step sieve test room ⟨file :: rest, seen, queue, workers, results⟩
        ⟨rest, seen, queue, workers, results ++ [verdict]⟩
  | enqueue (file : String) (rest : List String) (seen : List (String × String))
      (queue : List String) (workers : List Worker) (results : List Verdict) (digest : String)
      (planned : sieve.plan seen file = .test file digest) (space : queue.length < room) :
      Step sieve test room ⟨file :: rest, seen, queue, workers, results⟩
        ⟨rest, (digest, file) :: seen, queue ++ [file], workers, results⟩
  | take (files : List String) (seen : List (String × String)) (file : String)
      (queue : List String) (before after : List Worker) (results : List Verdict) :
      Step sieve test room ⟨files, seen, file :: queue, before ++ .idle :: after, results⟩
        ⟨files, seen, queue, before ++ .busy file :: after, results⟩
  | report (files : List String) (seen : List (String × String)) (queue : List String)
      (file : String) (before after : List Worker) (results : List Verdict)
      (space : results.length < room) :
      Step sieve test room ⟨files, seen, queue, before ++ .busy file :: after, results⟩
        ⟨files, seen, queue, before ++ .idle :: after, results ++ [test file]⟩
  | leave (seen : List (String × String)) (before after : List Worker) (results : List Verdict) :
      Step sieve test room ⟨[], seen, [], before ++ .idle :: after, results⟩
        ⟨[], seen, [], before ++ .gone :: after, results⟩

/-- Whether all is done: the feeder has gone through the files and all workers have left. -/
def IsComplete (pool : Pool) : Prop := pool.files = [] ∧ ∀ worker ∈ pool.workers, worker = .gone

/-- What a pool amounts to. -/
def outcome (pool : Pool) : List Verdict := inOrder pool.results

end Pool

end WinZig.Golden
