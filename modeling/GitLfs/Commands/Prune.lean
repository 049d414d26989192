import GitLfs.TransferQueue.Basic

/-! # The goroutines of `prune`

`prune` starts one task per source of retained objects, each counted on `taskwait` before
it starts; a task that needs more work counts a sub-task on `taskwait` before it starts it
and before its own deferred `Done`. Once `taskwait.Wait()` returns, `retainChan` is closed
and its collector drained, then `errorChan`; only then are the prunable objects computed,
verified against the remote if asked, and deleted. Whatever the interleaving, nothing is
deleted that a task asked to retain, nor after a task failed.
-/

namespace GitLfs.Commands

open Tq (Oid)

abbrev Sha := String

/-- A statement of a prune task that touches what the goroutines share: a send on
`retainChan` or `errorChan`, `waitg.Add(1)` followed by `go` of a sub-task, an append to
the local or reachable objects, or `Panic`, which ends the process. -/
inductive Instr
  | retain (oid : Oid)
  | fail
  | spawn (body : List Instr)
  | localObject (oid : Oid)
  | reachable (oid : Oid)
  | abort
  deriving Repr

/-- What a ref scan gives a task: the oids of the pointers it finds, or `none` if the scan
cannot start, and whether `refchan.Wait()` returns an error. -/
structure RefScan where
  results : Option (List Oid)
  waitFails : Bool

/-- The common body of the tasks that retain what a scan finds: each oid on `retainChan`,
and an error on `errorChan` if the scan fails to start or to finish. -/
def retainScanned (r : RefScan) : List Instr :=
  match r.results with
  | none => [.fail]
  | some oids => oids.map .retain ++ if r.waitFails then [.fail] else []

def pruneTaskGetRetainedAtRef (r : RefScan) : List Instr := retainScanned r

def pruneTaskGetPreviousVersionsOfRef (r : RefScan) : List Instr := retainScanned r

def pruneTaskGetRetainedUnpushed (r : RefScan) : List Instr := retainScanned r

def pruneTaskGetReachableObjects (r : RefScan) : List Instr :=
  match r.results with
  | none => [.fail]
  | some oids => oids.map .reachable ++ if r.waitFails then [.fail] else []

def pruneTaskGetLocalObjects (objects : List Oid) : List Instr := objects.map .localObject

/-- What git answers the prune tasks. `recentRefs` is `none` when `FetchRecentRefsDays` is
zero, and `some none` when `git.RecentBranches` fails. -/
structure PruneGit where
  localObjects : List Oid
  currentRef : Option Sha
  recentRefs : Option (Option (List Sha))
  recentCommits : Bool
  commitSummary : Sha → Bool
  atRef : Sha → RefScan
  previousVersions : Sha → RefScan
  unpushed : RefScan
  worktreeHeads : Option (List Sha)
  reachable : RefScan

/-- The shas for which `commits.Add` returns true, in order. -/
def newCommits : List Sha → List Sha → List Sha
  | _, [] => []
  | seen, x :: xs => if x ∈ seen then newCommits seen xs else x :: newCommits (x :: seen) xs

/-- A sub-task for the commit at each sha; the commit set is walked in insertion order. -/
def pruneTaskGetRetainedCurrentAndRecentRefs (g : PruneGit) : List Instr :=
  match g.currentRef with
  | none => [.fail]
  | some head =>
    let atRef (sha : Sha) := Instr.spawn (pruneTaskGetRetainedAtRef (g.atRef sha))
    let previous (sha : Sha) :=
      if g.commitSummary sha then Instr.spawn (pruneTaskGetPreviousVersionsOfRef (g.previousVersions sha))
      else Instr.fail
    match g.recentRefs with
    | some none => [atRef head, .abort]
    | recent =>
      let commits := head :: newCommits [head] ((recent.getD none).getD [])
      commits.map atRef ++ if g.recentCommits then commits.map previous else []

def pruneTaskGetRetainedWorktree (g : PruneGit) : List Instr :=
  match g.worktreeHeads, g.currentRef with
  | some heads, some head =>
    (newCommits [head] heads).map fun sha => .spawn (pruneTaskGetRetainedAtRef (g.atRef sha))
  | _, _ => [.fail]

structure PruneConfig where
  verifyRemote : Bool
  dryRun : Bool

/-- The tasks `prune` starts, in the order of its `go` statements. -/
def pruneTasks (cfg : PruneConfig) (g : PruneGit) : List (List Instr) :=
  [pruneTaskGetLocalObjects g.localObjects, pruneTaskGetRetainedCurrentAndRecentRefs g,
    pruneTaskGetRetainedUnpushed g.unpushed, pruneTaskGetRetainedWorktree g] ++
  if cfg.verifyRemote then [pruneTaskGetReachableObjects g.reachable] else []

/-- The body of `prune` after it has started its goroutines. -/
inductive PrunePc
  | waitTasks
  | closeRetain
  | waitRetain
  | closeErrors
  | waitErrors
  | verify (prunable : List Oid)
  | joinVerify (prunable : List Oid)
  | finished
  | exited
  deriving DecidableEq, Repr

/-- `taskwait.Wait()` has returned. -/
def PrunePc.joined : PrunePc → Bool
  | .waitTasks | .exited => false
  | _ => true

/-- `retainwait.Wait()` has returned. -/
def PrunePc.drained : PrunePc → Bool
  | .waitTasks | .closeRetain | .waitRetain | .exited => false
  | _ => true

/-- `pruneCheckErrors` has passed. -/
def PrunePc.checked : PrunePc → Bool
  | .verify _ | .joinVerify _ | .finished => true
  | _ => false

/-- The goroutines of `prune` and what they share. The last four fields record the run:
every oid sent on `retainChan`, the number of errors sent on `errorChan`, every oid the
verify queue reported on its watch channel, and the argument of `pruneDeleteFiles`. -/
structure Prune where
  tasks : List (List Instr)
  taskwait : Nat
  retainChan : List Oid
  retainClosed : Bool
  retainedObjects : List Oid
  retainDone : Bool
  errorChan : Nat
  errorClosed : Bool
  taskErrors : Nat
  errorDone : Bool
  localObjects : List Oid
  reachableObjects : List Oid
  verifyc : List Oid
  verifyClosed : Bool
  verifiedObjects : List Oid
  verifyDone : Bool
  pc : PrunePc
  retainSent : List Oid
  errorsSent : Nat
  reported : List Oid
  deleted : Option (List Oid)

def Prune.init (cfg : PruneConfig) (g : PruneGit) : Prune where
  tasks := pruneTasks cfg g
  taskwait := 4 + if cfg.verifyRemote then 1 else 0
  retainChan := []
  retainClosed := false
  retainedObjects := []
  retainDone := false
  errorChan := 0
  errorClosed := false
  taskErrors := 0
  errorDone := false
  localObjects := []
  reachableObjects := []
  verifyc := []
  verifyClosed := false
  verifiedObjects := []
  verifyDone := false
  pc := .waitTasks
  retainSent := []
  errorsSent := 0
  reported := []
  deleted := none

inductive PruneAct
  | task (i : Nat)
  | collectRetained
  | collectError
  | waitTasks
  | closeRetain
  | waitRetain
  | closeErrors
  | waitErrors
  | report (oid : Oid)
  | collectVerified
  | verifyWait
  | joinVerify

namespace Prune

variable (cfg : PruneConfig) (s : Prune)

def exit : Prune := { s with pc := .exited }

/-- The next statement of the `i`-th task, or its deferred `waitg.Done()`. A send on a
closed channel, and a negative counter, panic. -/
def task (i : Nat) : Option Prune :=
  match s.tasks[i]? with
  | none => none
  | some [] =>
    if s.taskwait = 0 then some s.exit
    else some { s with tasks := s.tasks.eraseIdx i, taskwait := s.taskwait - 1 }
  | some (ins :: rest) =>
    let s' := { s with tasks := s.tasks.set i rest }
    match ins with
    | .retain o =>
      if s.retainClosed then some s.exit
      else if s.retainChan.length < 100 then
        some { s' with retainChan := s.retainChan ++ [o], retainSent := s.retainSent ++ [o] }
      else none
    | .fail =>
      if s.errorClosed then some s.exit
      else if s.errorChan < 10 then
        some { s' with errorChan := s.errorChan + 1, errorsSent := s.errorsSent + 1 }
      else none
    | .spawn b => some { s' with tasks := s'.tasks ++ [b], taskwait := s.taskwait + 1 }
    | .localObject o => some { s' with localObjects := s.localObjects ++ [o] }
    | .reachable o => some { s' with reachableObjects := s.reachableObjects ++ [o] }
    | .abort => some s.exit

/-- `pruneTaskCollectRetained`: `outRetainedObjects.Add(oid)` for each oid received, and
`retainwait.Done()` once `retainChan` is closed and empty. -/
def collectRetained : Option Prune :=
  match s.retainChan with
  | o :: rest =>
    some { s with retainChan := rest,
                  retainedObjects := if o ∈ s.retainedObjects then s.retainedObjects
                                     else s.retainedObjects ++ [o] }
  | [] => if s.retainClosed ∧ s.retainDone = false then some { s with retainDone := true } else none

/-- `pruneTaskCollectErrors`. -/
def collectError : Option Prune :=
  if 0 < s.errorChan then some { s with errorChan := s.errorChan - 1, taskErrors := s.taskErrors + 1 }
  else if s.errorClosed ∧ s.errorDone = false then some { s with errorDone := true } else none

/-- The end of `prune`: nothing to prune, a dry run, or `pruneDeleteFiles`. -/
def finish (prunable : List Oid) : Prune :=
  if prunable = [] ∨ cfg.dryRun then { s with pc := .finished }
  else { s with deleted := some prunable, pc := .finished }

def waitTasks : Option Prune :=
  if s.pc = .waitTasks ∧ s.taskwait = 0 then some { s with pc := .closeRetain } else none

def closeRetain : Option Prune :=
  if s.pc = .closeRetain then some { s with retainClosed := true, pc := .waitRetain } else none

def waitRetain : Option Prune :=
  if s.pc = .waitRetain ∧ s.retainDone then some { s with pc := .closeErrors } else none

def closeErrors : Option Prune :=
  if s.pc = .closeErrors then some { s with errorClosed := true, pc := .waitErrors } else none

/-- `errorwait.Wait()`, `pruneCheckErrors`, and the list of prunable objects: the local
objects not retained. -/
def waitErrors : Option Prune :=
  if s.pc = .waitErrors ∧ s.errorDone then
    if 0 < s.taskErrors then some s.exit
    else
      let prunable := s.localObjects.filter (· ∉ s.retainedObjects)
      if cfg.verifyRemote then some { s with pc := .verify prunable }
      else some (s.finish cfg prunable)
  else none

/-- The verify queue reports a prunable oid it found on the remote on its watch channel. -/
def report (oid : Oid) : Option Prune :=
  match s.pc with
  | .verify p =>
    if oid ∈ p ∧ s.verifyClosed = false then
      some { s with verifyc := s.verifyc ++ [oid], reported := s.reported ++ [oid] }
    else none
  | _ => none

/-- The goroutine ranging over `verifyc`: `verifiedObjects.Add(oid)`, and
`verifywait.Done()` once the channel is closed and empty. -/
def collectVerified : Option Prune :=
  match s.verifyc with
  | o :: rest =>
    some { s with verifyc := rest,
                  verifiedObjects := if o ∈ s.verifiedObjects then s.verifiedObjects
                                     else s.verifiedObjects ++ [o] }
  | [] => if s.verifyClosed ∧ s.verifyDone = false then some { s with verifyDone := true } else none

/-- `verifyQueue.Wait()` returns, closing its watch channel. -/
def verifyWait : Option Prune :=
  match s.pc with
  | .verify p => some { s with verifyClosed := true, pc := .joinVerify p }
  | _ => none

/-- `verifywait.Wait()`, then `pruneCheckVerified`: abort if a prunable object that is
reachable was not verified. -/
def joinVerify : Option Prune :=
  match s.pc with
  | .joinVerify p =>
    if s.verifyDone then
      if p.any fun x => x ∉ s.verifiedObjects ∧ x ∈ s.reachableObjects then some s.exit
      else some (s.finish cfg p)
    else none
  | _ => none

end Prune

/-- One step of `prune`; after `Panic` or `Exit` nothing runs. -/
def pruneStep (cfg : PruneConfig) (s : Prune) : PruneAct → Option Prune
  | .task i => if s.pc = .exited then none else s.task i
  | .collectRetained => if s.pc = .exited then none else s.collectRetained
  | .collectError => if s.pc = .exited then none else s.collectError
  | .waitTasks => s.waitTasks
  | .closeRetain => s.closeRetain
  | .waitRetain => s.waitRetain
  | .closeErrors => s.closeErrors
  | .waitErrors => s.waitErrors cfg
  | .report oid => s.report oid
  | .collectVerified => if s.pc = .exited then none else s.collectVerified
  | .verifyWait => s.verifyWait
  | .joinVerify => s.joinVerify cfg

inductive PruneReachable (cfg : PruneConfig) (g : PruneGit) : Prune → Prop
  | init : PruneReachable cfg g (Prune.init cfg g)
  | step {s s' : Prune} {a : PruneAct} : PruneReachable cfg g s → pruneStep cfg s a = some s' →
      PruneReachable cfg g s'

namespace Prune

variable {cfg : PruneConfig} {g : PruneGit} {s s' : Prune}

/-- What every interleaving keeps. Each channel's collector has taken in everything sent on
it but what is still buffered, and has returned only on a closed, empty channel; each stage
of `prune` past a `Wait` knows what that `Wait` waited for; and `pruneDeleteFiles` was given
exactly the local objects not retained, each reachable one verified. -/
structure Safe (cfg : PruneConfig) (s : Prune) : Prop where
  count : s.taskwait = s.tasks.length
  retained : ∀ x ∈ s.retainSent, x ∈ s.retainedObjects ∨ x ∈ s.retainChan
  retainDone : s.retainDone = true → s.retainClosed = true ∧ s.retainChan = []
  errors : s.errorsSent = s.errorChan + s.taskErrors
  errorDone : s.errorDone = true → s.errorClosed = true ∧ s.errorChan = 0
  pending : ∀ x ∈ s.verifyc, x ∈ s.reported
  verified : ∀ x ∈ s.verifiedObjects, x ∈ s.reported
  joined : s.pc.joined = true → s.tasks = []
  drained : s.pc.drained = true → s.retainDone = true
  checked : s.pc.checked = true → s.errorDone = true ∧ s.taskErrors = 0
  prunable : ∀ p, (s.pc = .verify p ∨ s.pc = .joinVerify p) →
    p = s.localObjects.filter (· ∉ s.retainedObjects) ∧ cfg.verifyRemote = true
  deleted : ∀ p, s.deleted = some p → s.pc = .finished ∧
    p = s.localObjects.filter (· ∉ s.retainedObjects) ∧
    (cfg.verifyRemote = true → ∀ x ∈ p, x ∈ s.reachableObjects → x ∈ s.reported)

theorem safe_init (cfg : PruneConfig) (g : PruneGit) : Safe cfg (Prune.init cfg g) where
  count := by cases h : cfg.verifyRemote <;> simp [Prune.init, pruneTasks, h]
  retained := by simp [Prune.init]
  retainDone := by simp [Prune.init]
  errors := rfl
  errorDone := by simp [Prune.init]
  pending := by simp [Prune.init]
  verified := by simp [Prune.init]
  joined := by simp [Prune.init, PrunePc.joined]
  drained := by simp [Prune.init, PrunePc.drained]
  checked := by simp [Prune.init, PrunePc.checked]
  prunable := by simp [Prune.init]
  deleted := by simp [Prune.init]

theorem Safe.deleted_none (hs : Safe cfg s) (hp : s.pc ≠ .finished) : s.deleted = none := by
  cases h : s.deleted with
  | none => rfl
  | some p => exact absurd (hs.deleted p h).1 hp

theorem Safe.exit (hs : Safe cfg s) (hp : s.pc ≠ .finished) : Safe cfg s.exit where
  count := hs.count
  retained := hs.retained
  retainDone := hs.retainDone
  errors := hs.errors
  errorDone := hs.errorDone
  pending := hs.pending
  verified := hs.verified
  joined := nofun
  drained := nofun
  checked := nofun
  prunable _ h := by rcases h with h | h <;> cases h
  deleted _ h := by simp [Prune.exit, hs.deleted_none hp] at h

theorem Safe.running (hpc : s'.pc = .waitTasks) (hd : s'.deleted = none)
    (count : s'.taskwait = s'.tasks.length)
    (retained : ∀ x ∈ s'.retainSent, x ∈ s'.retainedObjects ∨ x ∈ s'.retainChan)
    (retainDone : s'.retainDone = true → s'.retainClosed = true ∧ s'.retainChan = [])
    (errors : s'.errorsSent = s'.errorChan + s'.taskErrors)
    (errorDone : s'.errorDone = true → s'.errorClosed = true ∧ s'.errorChan = 0)
    (pending : ∀ x ∈ s'.verifyc, x ∈ s'.reported)
    (verified : ∀ x ∈ s'.verifiedObjects, x ∈ s'.reported) : Safe cfg s' where
  count := count
  retained := retained
  retainDone := retainDone
  errors := errors
  errorDone := errorDone
  pending := pending
  verified := verified
  joined h := by rw [hpc] at h; cases h
  drained h := by rw [hpc] at h; cases h
  checked h := by rw [hpc] at h; cases h
  prunable _ h := by rw [hpc] at h; rcases h with h | h <;> cases h
  deleted _ h := by rw [hd] at h; cases h

theorem Safe.pc_of_task (hs : Safe cfg s) (hx : s.pc ≠ .exited) {i : Nat} {b : List Instr}
    (hi : s.tasks[i]? = some b) : s.pc = .waitTasks := by
  cases hp : s.pc <;> first | rfl | exact absurd hp hx | skip
  all_goals
    have := hs.joined (by rw [hp]; rfl)
    simp [this] at hi

theorem Safe.task {i : Nat} (hs : Safe cfg s) (hx : s.pc ≠ .exited) (h : s.task i = some s') :
    Safe cfg s' := by
  cases hi : s.tasks[i]? with
  | none => simp [Prune.task, hi] at h
  | some b =>
  have hpc := hs.pc_of_task hx hi
  have hd := hs.deleted_none (by rw [hpc]; nofun)
  have hex : Safe cfg s.exit := hs.exit (by rw [hpc]; nofun)
  have hlt : i < s.tasks.length := (List.getElem?_eq_some_iff.mp hi).1
  have hc : ∀ rest : List Instr, (s.tasks.set i rest).length = s.taskwait := fun _ => by
    rw [List.length_set, hs.count]
  cases b with
  | nil =>
    simp only [Prune.task, hi] at h
    split_ifs at h <;> cases h
    · exact hex
    · refine Safe.running hpc hd ?_ hs.retained hs.retainDone hs.errors hs.errorDone hs.pending
        hs.verified
      simp only [List.length_eraseIdx, hlt, if_true, hs.count]
  | cons ins rest =>
  cases ins with
  | retain o =>
    simp only [Prune.task, hi] at h
    split_ifs at h with hcl <;> cases h
    · exact hex
    · refine Safe.running hpc hd (hc rest).symm ?_ (fun h' => absurd (hs.retainDone h').1 hcl)
        hs.errors hs.errorDone hs.pending hs.verified
      intro x hx'
      rcases List.mem_append.mp hx' with hx' | hx'
      · exact (hs.retained x hx').imp id (fun h' => List.mem_append_left _ h')
      · exact .inr (List.mem_append_right _ hx')
  | fail =>
    simp only [Prune.task, hi] at h
    split_ifs at h with hcl <;> cases h
    · exact hex
    · refine Safe.running hpc hd (hc rest).symm hs.retained hs.retainDone ?_
        (fun h' => absurd (hs.errorDone h').1 hcl) hs.pending hs.verified
      have := hs.errors
      dsimp only
      omega
  | spawn b =>
    simp only [Prune.task, hi, Option.some.injEq] at h
    subst h
    exact Safe.running hpc hd (by simp [hc]) hs.retained hs.retainDone hs.errors hs.errorDone
      hs.pending hs.verified
  | localObject o | reachable o =>
    simp only [Prune.task, hi, Option.some.injEq] at h
    subst h
    exact Safe.running hpc hd (hc rest).symm hs.retained hs.retainDone hs.errors hs.errorDone
      hs.pending hs.verified
  | abort =>
    simp only [Prune.task, hi, Option.some.injEq] at h
    subst h
    exact hex

theorem Safe.collectRetained (hs : Safe cfg s) (h : s.collectRetained = some s') :
    Safe cfg s' := by
  unfold Prune.collectRetained at h
  split at h
  · rename_i o rest hr
    cases h
    have hnd : s.retainDone = false := by
      cases hd : s.retainDone
      · rfl
      · simp [(hs.retainDone hd).2] at hr
    have hdr : s.pc.drained = false := by
      cases hp : s.pc.drained
      · rfl
      · simp [hs.drained hp] at hnd
    have hfin : s.pc ≠ .finished := fun hp => by simp [hp, PrunePc.drained] at hdr
    refine ⟨hs.count, fun x hx => ?_, by simp [hnd], hs.errors, hs.errorDone, hs.pending,
      hs.verified, hs.joined, fun h' => by simp [hdr] at h', hs.checked, fun p hp => ?_,
      fun p hp => by simp [hs.deleted_none hfin] at hp⟩
    · rcases hs.retained x hx with hx | hx
      · left; split <;> simp [hx]
      · rw [hr] at hx
        rcases List.mem_cons.mp hx with rfl | hx
        · left; split <;> simp_all
        · exact .inr hx
    · rcases hp with hp | hp <;> rw [show s.pc = _ from hp] at hdr <;> cases hdr
  · split at h <;> cases h
    rename_i hr hc
    exact ⟨hs.count, fun x hx => (hs.retained x hx).imp id (by simp [hr]), fun _ => ⟨hc.1, hr⟩,
      hs.errors, hs.errorDone, hs.pending, hs.verified, hs.joined, fun _ => rfl, hs.checked,
      hs.prunable, hs.deleted⟩

theorem Safe.collectError (hs : Safe cfg s) (h : s.collectError = some s') : Safe cfg s' := by
  unfold Prune.collectError at h
  split_ifs at h with hpos hc <;> cases h
  · have hnd : s.errorDone = false := by
      cases hd : s.errorDone
      · rfl
      · have := (hs.errorDone hd).2; omega
    have hck : s.pc.checked = false := by
      cases hp : s.pc.checked
      · rfl
      · simp [(hs.checked hp).1] at hnd
    refine ⟨hs.count, hs.retained, hs.retainDone, by have := hs.errors; dsimp only; omega,
      by simp [hnd], hs.pending, hs.verified, hs.joined, hs.drained,
      fun h' => by simp [hck] at h', hs.prunable, hs.deleted⟩
  · exact ⟨hs.count, hs.retained, hs.retainDone, hs.errors, fun _ => ⟨hc.1, by dsimp only; omega⟩,
      hs.pending, hs.verified, hs.joined, hs.drained, fun h' => ⟨rfl, (hs.checked h').2⟩,
      hs.prunable, hs.deleted⟩

theorem Safe.finish {p : List Oid} (hs : Safe cfg s) (hd : s.deleted = none)
    (hp : p = s.localObjects.filter (· ∉ s.retainedObjects))
    (hck : s.errorDone = true ∧ s.taskErrors = 0) (hr : s.retainDone = true) (hj : s.tasks = [])
    (hv : cfg.verifyRemote = true → ∀ x ∈ p, x ∈ s.reachableObjects → x ∈ s.reported) :
    Safe cfg (s.finish cfg p) := by
  unfold Prune.finish
  split
  · exact ⟨hs.count, hs.retained, hs.retainDone, hs.errors, hs.errorDone, hs.pending, hs.verified,
      fun _ => hj, fun _ => hr, fun _ => hck, fun _ h => (by rcases h with h | h <;> cases h),
      fun _ h => by simp [hd] at h⟩
  · exact ⟨hs.count, hs.retained, hs.retainDone, hs.errors, hs.errorDone, hs.pending, hs.verified,
      fun _ => hj, fun _ => hr, fun _ => hck, fun _ h => (by rcases h with h | h <;> cases h),
      fun q hq => by cases hq; exact ⟨rfl, hp, hv⟩⟩

theorem Safe.advance {pc' : PrunePc} (hs : Safe cfg s) (hd : s.deleted = none)
    (hj : pc'.joined = true → s.tasks = []) (hr : pc'.drained = true → s.retainDone = true)
    (hc : pc'.checked = true → s.errorDone = true ∧ s.taskErrors = 0)
    (hp : ∀ p, (pc' = .verify p ∨ pc' = .joinVerify p) →
      p = s.localObjects.filter (· ∉ s.retainedObjects) ∧ cfg.verifyRemote = true) :
    Safe cfg { s with pc := pc' } :=
  ⟨hs.count, hs.retained, hs.retainDone, hs.errors, hs.errorDone, hs.pending, hs.verified, hj, hr,
    hc, hp, fun _ h => by simp [hd] at h⟩

theorem Safe.waitTasks (hs : Safe cfg s) (h : s.waitTasks = some s') : Safe cfg s' := by
  unfold Prune.waitTasks at h
  split_ifs at h with hw
  cases h
  have hd := hs.deleted_none (by rw [hw.1]; nofun)
  have ht : s.tasks = [] := List.length_eq_zero.mp (hs.count ▸ hw.2)
  exact hs.advance hd (fun _ => ht) nofun nofun (fun _ h => (by rcases h with h | h <;> cases h))

theorem Safe.closeRetain (hs : Safe cfg s) (h : s.closeRetain = some s') : Safe cfg s' := by
  unfold Prune.closeRetain at h
  split_ifs at h with hw
  cases h
  have hd := hs.deleted_none (by rw [hw]; nofun)
  have ht := hs.joined (by rw [hw]; rfl)
  exact ⟨hs.count, hs.retained, fun h' => ⟨rfl, (hs.retainDone h').2⟩, hs.errors, hs.errorDone,
    hs.pending, hs.verified, fun _ => ht, nofun, nofun, fun _ h => (by rcases h with h | h <;> cases h),
    fun _ h => by simp [hd] at h⟩

theorem Safe.waitRetain (hs : Safe cfg s) (h : s.waitRetain = some s') : Safe cfg s' := by
  unfold Prune.waitRetain at h
  split_ifs at h with hw
  cases h
  have hd := hs.deleted_none (by rw [hw.1]; nofun)
  exact hs.advance hd (fun _ => hs.joined (by rw [hw.1]; rfl)) (fun _ => hw.2) nofun
    (fun _ h => (by rcases h with h | h <;> cases h))

theorem Safe.closeErrors (hs : Safe cfg s) (h : s.closeErrors = some s') : Safe cfg s' := by
  unfold Prune.closeErrors at h
  split_ifs at h with hw
  cases h
  have hd := hs.deleted_none (by rw [hw]; nofun)
  exact ⟨hs.count, hs.retained, hs.retainDone, hs.errors, fun h' => ⟨rfl, (hs.errorDone h').2⟩,
    hs.pending, hs.verified, fun _ => hs.joined (by rw [hw]; rfl),
    fun _ => hs.drained (by rw [hw]; rfl), nofun, fun _ h => (by rcases h with h | h <;> cases h),
    fun _ h => by simp [hd] at h⟩

theorem Safe.waitErrors (hs : Safe cfg s) (h : s.waitErrors cfg = some s') : Safe cfg s' := by
  unfold Prune.waitErrors at h
  split_ifs at h with hw hpos hv <;> cases h
  · exact hs.exit (by rw [hw.1]; nofun)
  all_goals
    have hd := hs.deleted_none (by rw [hw.1]; nofun)
    have hj := hs.joined (by rw [hw.1]; rfl)
    have hr := hs.drained (by rw [hw.1]; rfl)
    have hck : s.errorDone = true ∧ s.taskErrors = 0 := ⟨hw.2, by omega⟩
  · exact hs.advance hd (fun _ => hj) (fun _ => hr) (fun _ => hck)
      (fun p h => by rcases h with h | h <;> cases h; exact ⟨rfl, hv⟩)
  · exact hs.finish hd rfl hck hr hj (by simp [hv])

theorem Safe.report {x : Oid} (hs : Safe cfg s) (h : s.report x = some s') : Safe cfg s' := by
  unfold Prune.report at h
  split at h
  · rename_i p hp
    split_ifs at h with hx
    cases h
    have hd := hs.deleted_none (by rw [hp]; nofun)
    refine ⟨hs.count, hs.retained, hs.retainDone, hs.errors, hs.errorDone, fun y hy => ?_,
      fun y hy => List.mem_append_left _ (hs.verified y hy), hs.joined, hs.drained, hs.checked,
      hs.prunable, fun _ h => by simp [hd] at h⟩
    rcases List.mem_append.mp hy with hy | hy
    · exact List.mem_append_left _ (hs.pending y hy)
    · exact List.mem_append_right _ hy
  · cases h

theorem Safe.collectVerified (hs : Safe cfg s) (h : s.collectVerified = some s') :
    Safe cfg s' := by
  unfold Prune.collectVerified at h
  split at h
  · rename_i o rest hv
    cases h
    have ho : o ∈ s.reported := hs.pending o (by simp [hv])
    refine ⟨hs.count, hs.retained, hs.retainDone, hs.errors, hs.errorDone,
      fun y hy => hs.pending y (by simp [hv, hy]), fun y hy => ?_, hs.joined, hs.drained,
      hs.checked, hs.prunable, hs.deleted⟩
    split at hy
    · exact hs.verified y hy
    · rcases List.mem_append.mp hy with hy | hy
      · exact hs.verified y hy
      · rw [List.mem_singleton.mp hy]; exact ho
  · split at h <;> cases h
    exact ⟨hs.count, hs.retained, hs.retainDone, hs.errors, hs.errorDone, hs.pending, hs.verified,
      hs.joined, hs.drained, hs.checked, hs.prunable, hs.deleted⟩

theorem Safe.verifyWait (hs : Safe cfg s) (h : s.verifyWait = some s') : Safe cfg s' := by
  unfold Prune.verifyWait at h
  split at h
  · rename_i p hp
    cases h
    have hd := hs.deleted_none (by rw [hp]; nofun)
    exact ⟨hs.count, hs.retained, hs.retainDone, hs.errors, hs.errorDone, hs.pending, hs.verified,
      fun _ => hs.joined (by rw [hp]; rfl), fun _ => hs.drained (by rw [hp]; rfl),
      fun _ => hs.checked (by rw [hp]; rfl),
      fun _ h => by rcases h with h | h <;> cases h; exact hs.prunable _ (.inl hp),
      fun _ h => by simp [hd] at h⟩
  · cases h

theorem Safe.joinVerify (hs : Safe cfg s) (h : s.joinVerify cfg = some s') : Safe cfg s' := by
  unfold Prune.joinVerify at h
  split at h
  · rename_i p hp
    have hd := hs.deleted_none (by rw [hp]; nofun)
    split_ifs at h with hdone hbad <;> cases h
    · exact hs.exit (by rw [hp]; nofun)
    · obtain ⟨hpf, -⟩ := hs.prunable p (.inr hp)
      refine hs.finish hd hpf (hs.checked (by rw [hp]; rfl)) (hs.drained (by rw [hp]; rfl))
        (hs.joined (by rw [hp]; rfl)) fun _ x hx hr => hs.verified x ?_
      by_contra hn
      exact hbad (List.any_eq_true.mpr ⟨x, hx, by simp [hn, hr]⟩)
  · cases h

theorem Safe.step {a : PruneAct} (hs : Safe cfg s) (h : pruneStep cfg s a = some s') :
    Safe cfg s' := by
  cases a with
  | task i =>
    simp only [pruneStep] at h
    split_ifs at h with hx
    exact hs.task hx h
  | collectRetained =>
    simp only [pruneStep] at h
    split_ifs at h
    exact hs.collectRetained h
  | collectError =>
    simp only [pruneStep] at h
    split_ifs at h
    exact hs.collectError h
  | waitTasks => exact hs.waitTasks h
  | closeRetain => exact hs.closeRetain h
  | waitRetain => exact hs.waitRetain h
  | closeErrors => exact hs.closeErrors h
  | waitErrors => exact hs.waitErrors h
  | report x => exact hs.report h
  | collectVerified =>
    simp only [pruneStep] at h
    split_ifs at h
    exact hs.collectVerified h
  | verifyWait => exact hs.verifyWait h
  | joinVerify => exact hs.joinVerify h

theorem reachable_safe (h : PruneReachable cfg g s) : Safe cfg s := by
  induction h with
  | init => exact safe_init cfg g
  | step _ hs ih => exact ih.step hs

/-- Whatever the interleaving of the tasks, their sub-tasks and the collectors: when
`pruneDeleteFiles` is called, every task has returned, every oid any task sent on
`retainChan` is in `retainedObjects`, no task sent an error, the files deleted are the
local objects not retained, and, when verifying, every one of them that is reachable was
reported on the verify queue's watch channel. -/
theorem prune_deletes_safely {p : List Oid} (h : PruneReachable cfg g s) (hd : s.deleted = some p) :
    s.tasks = [] ∧ (∀ x ∈ s.retainSent, x ∈ s.retainedObjects) ∧ s.errorsSent = 0 ∧
    p = s.localObjects.filter (· ∉ s.retainedObjects) ∧
    (cfg.verifyRemote = true → ∀ x ∈ p, x ∈ s.reachableObjects → x ∈ s.reported) := by
  have hs := reachable_safe h
  obtain ⟨hf, hp, hv⟩ := hs.deleted p hd
  have hr := hs.drained (by rw [hf]; rfl)
  obtain ⟨hed, hte⟩ := hs.checked (by rw [hf]; rfl)
  refine ⟨hs.joined (by rw [hf]; rfl), fun x hx => ?_, ?_, hp, hv⟩
  · simpa [(hs.retainDone hr).2] using hs.retained x hx
  · rw [hs.errors, (hs.errorDone hed).2, hte]

def run (cfg : PruneConfig) : Prune → List PruneAct → Option Prune
  | s, [] => some s
  | s, a :: as => (pruneStep cfg s a).bind (run cfg · as)

theorem reachable_run : ∀ {s s' : Prune} {as : List PruneAct}, PruneReachable cfg g s →
    run cfg s as = some s' → PruneReachable cfg g s'
  | s, s', [], hs, h => by cases h; exact hs
  | s, s', a :: as, hs, h => by
    simp only [run] at h
    cases hst : pruneStep cfg s a with
    | none => simp [hst] at h
    | some s₁ =>
      simp only [hst, Option.bind_some] at h
      exact reachable_run (hs.step hst) h

/-- Two local objects, `a` retained at `HEAD`, `b` only reachable: with `--verify-remote`,
once the remote reports `b`, `b` is deleted. -/
def exampleConfig : PruneConfig := ⟨true, false⟩

def exampleGit : PruneGit where
  localObjects := ["a", "b"]
  currentRef := some "h"
  recentRefs := none
  recentCommits := false
  commitSummary _ := true
  atRef _ := ⟨some ["a"], false⟩
  previousVersions _ := ⟨some [], false⟩
  unpushed := ⟨some [], false⟩
  worktreeHeads := some []
  reachable := ⟨some ["b"], false⟩

def exampleTrace : List PruneAct :=
  List.replicate 11 (.task 0) ++
    [.collectRetained, .waitTasks, .closeRetain, .collectRetained, .waitRetain, .closeErrors,
      .collectError, .waitErrors, .report "b", .collectVerified, .verifyWait, .collectVerified,
      .joinVerify]

def examplePrune : Prune :=
  (run exampleConfig (Prune.init exampleConfig exampleGit) exampleTrace).getD
    (Prune.init exampleConfig exampleGit)

theorem examplePrune_deletes_safely :
    examplePrune.tasks = [] ∧ (∀ x ∈ examplePrune.retainSent, x ∈ examplePrune.retainedObjects) ∧
    examplePrune.errorsSent = 0 ∧
    ["b"] = examplePrune.localObjects.filter (· ∉ examplePrune.retainedObjects) ∧
    (exampleConfig.verifyRemote = true →
      ∀ x ∈ ["b"], x ∈ examplePrune.reachableObjects → x ∈ examplePrune.reported) :=
  prune_deletes_safely (reachable_run .init
    (rfl : run exampleConfig (Prune.init exampleConfig exampleGit) exampleTrace = some examplePrune))
    (by decide)

end Prune

end GitLfs.Commands
