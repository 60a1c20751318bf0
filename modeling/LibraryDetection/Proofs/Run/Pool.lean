import LibraryDetection.Run.Pool

/-!
# Outcomes of worker pools

Whatever course a pool takes, it comes to an end, and what is collected from it is what the
tasks give one after the other.
-/

namespace LibraryDetection

set_option autoImplicit false

namespace Pool

variable {α β ε : Type} {workers : Nat}

section Course

variable {perform : α → β} {tasks : List α} {pool next : Pool α β}

/-- Every task with its place and its result, whether a worker has ended it or not. -/
def account (perform : α → β) (pool : Pool α β) : List (Nat × β) :=
  (pool.waiting ++ pool.running).map (fun task => (task.2, perform task.1)) ++ pool.finished

theorem Step.account_perm (step : Step workers perform pool next) :
    (next.account perform).Perm (pool.account perform) := by
  cases step with
  | @take task waiting running finished free =>
      refine List.Perm.append_right finished (List.Perm.map _ ?_)
      exact List.perm_middle
  | @finish task waiting before after finished =>
      simp only [account, List.map_append, List.map_cons, List.append_assoc, List.cons_append]
      refine (List.Perm.refl _).append ((List.Perm.refl _).append ?_)
      exact List.perm_middle

theorem Reached.account_perm (reached : Reached workers perform tasks pool) :
    (pool.account perform).Perm (tasks.zipIdx.map fun task => (task.2, perform task.1)) := by
  induction reached with
  | submitted => simp [account, submit]
  | step _ step ih => exact step.account_perm.trans ih

theorem Reached.eq_of_lookup (reached : Reached workers perform tasks pool) {place : Nat}
    {result : β} (found : pool.finished.lookup place = some result) {task : α}
    (isTask : tasks[place]? = some task) : result = perform task := by
  have listed : (place, result) ∈ pool.account perform := by
    obtain ⟨front, back, same, _⟩ := List.lookup_eq_some_iff.1 found
    rw [account, same]
    exact List.mem_append_right _ (List.mem_append_right _ List.mem_cons_self)
  obtain ⟨⟨other, there⟩, inTasks, same⟩ := List.mem_map.1 (reached.account_perm.mem_iff.1 listed)
  obtain ⟨rfl, rfl⟩ := Prod.mk.inj same
  rw [List.mk_mem_zipIdx_iff_getElem?, isTask] at inTasks
  rw [Option.some.inj inTasks]

theorem Reached.lookup_of_is_done (reached : Reached workers perform tasks pool)
    (done : pool.IsDone) {place : Nat} {task : α} (isTask : tasks[place]? = some task) :
    pool.finished.lookup place = some (perform task) := by
  have listed : (place, perform task) ∈ pool.account perform := by
    refine reached.account_perm.mem_iff.2 (List.mem_map.2 ⟨(task, place), ?_, rfl⟩)
    exact List.mk_mem_zipIdx_iff_getElem?.2 isTask
  rw [account, done.1, done.2] at listed
  cases found : pool.finished.lookup place with
  | none =>
      have absent := List.lookup_eq_none_iff.1 found _ listed
      simp at absent
  | some result => rw [reached.eq_of_lookup found isTask]

def remaining (pool : Pool α β) : Nat := 2 * pool.waiting.length + pool.running.length

theorem Step.remaining_lt (step : Step workers perform pool next) :
    next.remaining < pool.remaining := by
  cases step <;> simp only [remaining, List.length_cons, List.length_append] <;> omega

theorem exists_step (some : 0 < workers) (perform : α → β) (busy : ¬ pool.IsDone) :
    ∃ next, Step workers perform pool next := by
  obtain ⟨waiting, running, finished⟩ := pool
  cases running with
  | cons task others => exact ⟨_, @Step.finish _ _ _ _ task waiting [] others finished⟩
  | nil =>
      cases waiting with
      | nil => exact absurd ⟨rfl, rfl⟩ busy
      | cons task others => exact ⟨_, .take some⟩

theorem Reached.exists_is_done (some : 0 < workers) (reached : Reached workers perform tasks pool) :
    ∃ last, Reached workers perform tasks last ∧ last.IsDone := by
  induction left : pool.remaining using Nat.strongRecOn generalizing pool with
  | _ count ih =>
      by_cases done : pool.IsDone
      · exact ⟨pool, reached, done⟩
      · obtain ⟨next, step⟩ := exists_step some perform done
        exact ih next.remaining (left ▸ step.remaining_lt) (reached.step step) rfl

end Course

section Collect

variable {perform : α → Except ε β} {tasks rest : List α} {pool : Pool α (Except ε β)}

theorem getElem?_and_drop_of_drop_eq_cons {task : α} {place : Nat}
    (isRest : tasks.drop place = task :: rest) :
    tasks[place]? = some task ∧ tasks.drop (place + 1) = rest := by
  constructor
  · rw [← List.head?_drop, isRest, List.head?_cons]
  · rw [← List.drop_drop, isRest, List.drop_succ_cons, List.drop_zero]

theorem Reached.collect_from_eq (reached : Reached workers perform tasks pool) {place : Nat}
    (isRest : tasks.drop place = rest) {outcome : Except ε (List β)}
    (collected : pool.collectFrom place rest.length = some outcome) :
    outcome = rest.mapM perform := by
  induction rest generalizing place outcome with
  | nil =>
      cases collected
      rfl
  | cons task rest ih =>
      obtain ⟨isTask, next⟩ := getElem?_and_drop_of_drop_eq_cons isRest
      rw [List.length_cons, collectFrom] at collected
      rw [List.mapM_cons]
      cases found : pool.finished.lookup place with
      | none => simp [found] at collected
      | some result =>
          have same := reached.eq_of_lookup found isTask
          subst same
          cases result : perform task with
          | error error =>
              simp only [found, result, Option.some.injEq] at collected
              subst collected
              rfl
          | ok value =>
              simp only [found, result] at collected
              obtain ⟨others, below, rfl⟩ := Option.map_eq_some_iff.1 collected
              rw [ih next below]
              cases rest.mapM perform <;> rfl

theorem Reached.exists_collect_from (reached : Reached workers perform tasks pool)
    (done : pool.IsDone) {place : Nat} (isRest : tasks.drop place = rest) :
    ∃ outcome, pool.collectFrom place rest.length = some outcome := by
  induction rest generalizing place with
  | nil => exact ⟨_, rfl⟩
  | cons task rest ih =>
      obtain ⟨isTask, next⟩ := getElem?_and_drop_of_drop_eq_cons isRest
      obtain ⟨others, below⟩ := ih next
      rw [List.length_cons, collectFrom, reached.lookup_of_is_done done isTask]
      cases perform task with
      | error error => exact ⟨_, rfl⟩
      | ok value =>
          simp only [below]
          exact ⟨_, rfl⟩

end Collect

end Pool

namespace FileTree

variable {files : FileTree} {corpus : Corpus} {settings : MatchSettings}
  {options : DetectionOptions}

theorem result_match_applications (applications : List String) :
    (files.matchApplications corpus settings options applications).result =
      applications.mapM (files.matchOne corpus settings options) := by
  induction applications with
  | nil => rfl
  | cons application rest ih =>
      rw [matchApplications, Logged.result_bind, List.mapM_cons, matchOne]
      cases (reportedMatch corpus settings application
          (files.matchApplication corpus settings options application)).result with
      | error failure => rfl
      | ok report =>
          change ((files.matchApplications corpus settings options rest) >>= _).result = _
          rw [Logged.result_bind, ih]
          cases rest.mapM (files.matchOne corpus settings options) <;> rfl

theorem matches_with_iff (workers : Int) (applications : List String)
    (outcome : Except RunFailure (List MatchReport)) :
    files.MatchesWith workers corpus settings options applications outcome ↔
      outcome = (files.matchApplications corpus settings options applications).result := by
  constructor
  · intro matched
    cases matched with
    | inOrder single => rfl
    | pooled many several reached collected =>
        rw [result_match_applications]
        exact reached.collect_from_eq List.drop_zero collected
  · rintro rfl
    by_cases many : 1 < workers
    · by_cases several : 1 < applications.length
      · have some : 0 < workers.toNat := by omega
        have begun : Pool.Reached workers.toNat (files.matchOne corpus settings options)
            applications (Pool.submit applications) := .submitted
        obtain ⟨pool, reached, done⟩ := begun.exists_is_done some
        obtain ⟨outcome, collected⟩ := reached.exists_collect_from done List.drop_zero
        have same := reached.collect_from_eq List.drop_zero collected
        rw [← result_match_applications] at same
        exact same ▸ .pooled many several reached collected
      · exact .inOrder (.inr (Nat.le_of_not_lt several))
    · exact .inOrder (.inl (Int.not_lt.1 many))

end FileTree

end LibraryDetection
