import LibraryDetection.Run.Matching

/-!
# Worker pools

A pool hands tasks in their order to a number of workers, which end them in any order.  The
results are read in the order of the tasks, and the first failure among them is the
outcome.  Applications may be looked through one after the other or by a pool.
-/

namespace LibraryDetection

set_option autoImplicit false

structure Pool (α β : Type) where
  /-- The tasks that no worker has taken, each with its place. -/
  waiting : List (α × Nat)
  running : List (α × Nat)
  finished : List (Nat × β)

namespace Pool

variable {α β ε : Type}

def submit (tasks : List α) : Pool α β := ⟨tasks.zipIdx, [], []⟩

inductive Step (workers : Nat) (perform : α → β) : Pool α β → Pool α β → Prop
  | take {task : α × Nat} {waiting running : List (α × Nat)} {finished : List (Nat × β)}
      (free : running.length < workers) :
      Step workers perform ⟨task :: waiting, running, finished⟩
        ⟨waiting, task :: running, finished⟩
  | finish {task : α × Nat} {waiting before after : List (α × Nat)}
      {finished : List (Nat × β)} :
      Step workers perform ⟨waiting, before ++ task :: after, finished⟩
        ⟨waiting, before ++ after, (task.2, perform task.1) :: finished⟩

inductive Reached (workers : Nat) (perform : α → β) (tasks : List α) : Pool α β → Prop
  | submitted : Reached workers perform tasks (submit tasks)
  | step {pool next : Pool α β} (reached : Reached workers perform tasks pool)
      (step : Step workers perform pool next) : Reached workers perform tasks next

def IsDone (pool : Pool α β) : Prop := pool.waiting = [] ∧ pool.running = []

/-- The results of `count` tasks from a place on, once those that decide are there. -/
def collectFrom (pool : Pool α (Except ε β)) : Nat → Nat → Option (Except ε (List β))
  | _, 0 => some (.ok [])
  | place, count + 1 =>
      match pool.finished.lookup place with
      | none => none
      | some (.error error) => some (.error error)
      | some (.ok result) =>
          (pool.collectFrom (place + 1) count).map fun others => others.map (result :: ·)

end Pool

namespace FileTree

def matchOne (files : FileTree) (corpus : Corpus) (settings : MatchSettings)
    (options : DetectionOptions) (application : String) : Except RunFailure MatchReport :=
  (reportedMatch corpus settings application
    (files.matchApplication corpus settings options application)).result

/-- What a batch may come to: a single worker or application needs no pool, and a pool may
take any course. -/
inductive MatchesWith (files : FileTree) (workers : Int) (corpus : Corpus)
    (settings : MatchSettings) (options : DetectionOptions) (applications : List String) :
    Except RunFailure (List MatchReport) → Prop
  | inOrder (single : workers ≤ 1 ∨ applications.length ≤ 1) :
      MatchesWith files workers corpus settings options applications
        (files.matchApplications corpus settings options applications).result
  | pooled {pool : Pool String (Except RunFailure MatchReport)}
      {outcome : Except RunFailure (List MatchReport)}
      (many : 1 < workers) (several : 1 < applications.length)
      (reached : Pool.Reached workers.toNat (files.matchOne corpus settings options)
        applications pool)
      (collected : pool.collectFrom 0 applications.length = some outcome) :
      MatchesWith files workers corpus settings options applications outcome

end FileTree

end LibraryDetection
