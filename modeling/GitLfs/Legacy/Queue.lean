import GitLfs.TransferQueue.Basic

/-! # The legacy transfer queue in individual mode

`processIndividual` hands each transferable to a pool of API workers over `apic`. Until an
API call succeeds, a worker waits on `authCond` before calling `Check`, so that only one
credential prompt runs at a time: the main loop wakes the first worker with a single
`Signal` once one worker has announced itself on `workersReady`, a failed call wakes the
next, and a successful one wakes them all. A worker announces itself before it reaches
`authCond.Wait()`, so the main loop's `Signal` can come first and wake nobody.
-/

namespace GitLfs.Legacy

open Tq (Oid)

/-- What `sendApiEvent` puts on the `apiEvent` channel. -/
inductive ApiEvent
  | success
  | fail
  deriving DecidableEq, Repr

/-- What `t.Check()` returns: an error, an object to transfer, or neither. -/
inductive CheckResult
  | error
  | object
  | none
  deriving DecidableEq, Repr

/-- An API worker goroutine of `processIndividual`, with the transferable it holds. -/
inductive Worker
  | start
  | range
  | lock (t : Oid)
  | locked (t : Oid)
  | waiting (t : Oid)
  | unlock (t : Oid)
  | check (t : Oid)
  | report (t : Oid)
  | enqueue (t : Oid)
  | exited
  deriving DecidableEq, Repr

/-- `processIndividual` itself: the loop over `q.transferables`, then `<-workersReady`,
`q.authCond.Signal()`, `close(apic)` and `wg.Wait()`. -/
inductive Main
  | push (rest : List Oid)
  | signal
  | close
  | wait
  | returned
  deriving DecidableEq, Repr

/-- The queue while `Process` runs `processIndividual`. `owner` is the holder of
`authCond.L` and `waiters` the goroutines blocked in `authCond.Wait()`, in the order a
`Signal` wakes them; `errorc` is an error the collector has received and not yet appended. -/
structure Queue where
  files : Nat
  apic : List Oid
  apicClosed : Bool
  workersReady : Nat
  wg : Nat
  qwg : Nat
  clientAuthorized : Bool
  owner : Option Nat
  waiters : List Nat
  apiEvent : List ApiEvent
  listening : Bool
  workers : List Worker
  main : Main
  transferc : List Oid
  errorc : Option Oid
  errors : List Oid
  deriving DecidableEq, Repr

/-- `newTransferQueue(workers, files)`, the `Add`s of `transferables` (distinct oids, in
the map's iteration order) and `Process` up to `processIndividual`'s first statement. -/
def Queue.init (workers files : Nat) (transferables : List Oid) : Queue where
  files := files
  apic := []
  apicClosed := false
  workersReady := 0
  wg := 0
  qwg := 0
  clientAuthorized := false
  owner := none
  waiters := []
  apiEvent := []
  listening := true
  workers := List.replicate workers .start
  main := .push transferables
  transferc := []
  errorc := none
  errors := []

inductive Act
  | ready (i : Nat)
  | receive (i : Nat)
  | lock (i : Nat)
  | wait (i : Nat)
  | relock (i : Nat)
  | unlock (i : Nat)
  | check (i : Nat) (r : CheckResult) (e : Option ApiEvent)
  | report (i : Nat)
  | enqueue (i : Nat)
  | push
  | takeReady
  | signal
  | closeApic
  | waitGroup
  | event
  | transfer
  | collect
  deriving DecidableEq, Repr

namespace Queue

variable (q : Queue)

def setWorker (i : Nat) (w : Worker) : Queue := { q with workers := q.workers.set i w }

/-- `workersReady <- 1`. -/
def ready (i : Nat) : Option Queue :=
  match q.workers[i]? with
  | some .start =>
    if q.workersReady < q.workers.length then
      some { q.setWorker i .range with workersReady := q.workersReady + 1 }
    else none
  | _ => none

/-- `for t := range apic`: take the next transferable, or leave once `apic` is closed. -/
def receive (i : Nat) : Option Queue :=
  match q.workers[i]? with
  | some .range =>
    match q.apic with
    | t :: rest => some { q.setWorker i (.lock t) with apic := rest }
    | [] => if q.apicClosed then some (q.setWorker i .exited) else none
  | _ => none

/-- `q.authCond.L.Lock()`. -/
def lock (i : Nat) : Option Queue :=
  match q.workers[i]? with
  | some (.lock t) => if q.owner = none then some { q.setWorker i (.locked t) with owner := some i } else none
  | _ => none

/-- `if atomic.LoadInt32(&q.clientAuthorized) == 0 { q.authCond.Wait() }`: `Wait` puts the
worker on the waiter list and releases the lock. -/
def wait (i : Nat) : Option Queue :=
  match q.workers[i]? with
  | some (.locked t) =>
    if q.clientAuthorized then some (q.setWorker i (.unlock t))
    else some { q.setWorker i (.waiting t) with waiters := q.waiters ++ [i], owner := none }
  | _ => none

/-- `Wait` returns once a `Signal` or `Broadcast` has taken the worker off the waiter list,
holding the lock again. -/
def relock (i : Nat) : Option Queue :=
  match q.workers[i]? with
  | some (.waiting t) =>
    if i ∉ q.waiters ∧ q.owner = none then some { q.setWorker i (.unlock t) with owner := some i }
    else none
  | _ => none

/-- `q.authCond.L.Unlock()`. -/
def unlock (i : Nat) : Option Queue :=
  match q.workers[i]? with
  | some (.unlock t) => some { q.setWorker i (.check t) with owner := none }
  | _ => none

/-- `t.Check()`, with the result and the event it sends on `apiEvent`, if any, as the
environment chooses; a nil object is done with at once. -/
def check (i : Nat) (r : CheckResult) (e : Option ApiEvent) : Option Queue :=
  match q.workers[i]? with
  | some (.check t) =>
    let q := { q with apiEvent := q.apiEvent ++ e.toList }
    match r with
    | .error => some (q.setWorker i (.report t))
    | .object => some (q.setWorker i (.enqueue t))
    | .none => some { q.setWorker i .range with wg := q.wg - 1 }
  | _ => none

/-- `q.errorc <- err; wg.Done()`: the unbuffered send waits for the error collector. -/
def report (i : Nat) : Option Queue :=
  match q.workers[i]? with
  | some (.report t) =>
    if q.errorc = none then some { q.setWorker i .range with errorc := some t, wg := q.wg - 1 }
    else none
  | _ => none

/-- `q.wg.Add(1); q.transferc <- t; wg.Done()`. -/
def enqueue (i : Nat) : Option Queue :=
  match q.workers[i]? with
  | some (.enqueue t) =>
    if q.transferc.length < max q.files 1 then
      some { q.setWorker i .range with qwg := q.qwg + 1, transferc := q.transferc ++ [t],
                                       wg := q.wg - 1 }
    else none
  | _ => none

/-- `wg.Add(1); apic <- t` for the next transferable; `apic` holds `files` of them. -/
def push : Option Queue :=
  match q.main with
  | .push (t :: rest) =>
    if q.apic.length < max q.files 1 then
      some { q with wg := q.wg + 1, apic := q.apic ++ [t], main := .push rest }
    else none
  | _ => none

/-- `<-workersReady`. -/
def takeReady : Option Queue :=
  match q.main with
  | .push [] =>
    if 0 < q.workersReady then some { q with workersReady := q.workersReady - 1, main := .signal }
    else none
  | _ => none

/-- `q.authCond.Signal()`: wakes the first waiter, if there is one. -/
def signal : Option Queue :=
  match q.main with
  | .signal => some { q with waiters := q.waiters.tail, main := .close }
  | _ => none

def closeApic : Option Queue :=
  match q.main with
  | .close => some { q with apicClosed := true, main := .wait }
  | _ => none

/-- `wg.Wait()`, then `close(q.transferc)`: `processIndividual` returns. -/
def waitGroup : Option Queue :=
  match q.main with
  | .wait => if q.wg = 0 then some { q with main := .returned } else none
  | _ => none

/-- The `apiEvent` goroutine: a success authorizes every worker and wakes them all, then
the goroutine returns; a failure wakes the next waiter. -/
def event : Option Queue :=
  if q.listening then
    match q.apiEvent with
    | .success :: rest =>
      some { q with apiEvent := rest, clientAuthorized := true, waiters := [], listening := false }
    | .fail :: rest => some { q with apiEvent := rest, waiters := q.waiters.tail }
    | [] => none
  else none

/-- A transfer worker of `Process` takes a transfer and finishes it. -/
def transfer : Option Queue :=
  match q.transferc with
  | _ :: rest => some { q with transferc := rest, qwg := q.qwg - 1 }
  | [] => none

/-- The error collector appends the error it received. -/
def collect : Option Queue :=
  match q.errorc with
  | some e => some { q with errors := q.errors ++ [e], errorc := none }
  | none => none

end Queue

def step (q : Queue) : Act → Option Queue
  | .ready i => q.ready i
  | .receive i => q.receive i
  | .lock i => q.lock i
  | .wait i => q.wait i
  | .relock i => q.relock i
  | .unlock i => q.unlock i
  | .check i r e => q.check i r e
  | .report i => q.report i
  | .enqueue i => q.enqueue i
  | .push => q.push
  | .takeReady => q.takeReady
  | .signal => q.signal
  | .closeApic => q.closeApic
  | .waitGroup => q.waitGroup
  | .event => q.event
  | .transfer => q.transfer
  | .collect => q.collect

/-- The states the queue reaches from `Queue.init`, whatever `Check` returns. -/
inductive Reachable (workers files : Nat) (transferables : List Oid) : Queue → Prop
  | init : Reachable workers files transferables (Queue.init workers files transferables)
  | step {q q' : Queue} {a : Act} : Reachable workers files transferables q →
      step q a = some q' → Reachable workers files transferables q'

def run : Queue → List Act → Option Queue
  | q, [] => some q
  | q, a :: as => (step q a).bind (run · as)

theorem Reachable.run {w f : Nat} {ts : List Oid} :
    ∀ {q q' : Queue} {as : List Act}, Reachable w f ts q → Legacy.run q as = some q' →
      Reachable w f ts q'
  | q, q', [], hq, h => by cases h; exact hq
  | q, q', a :: as, hq, h => by
    simp only [Legacy.run] at h
    cases hs : Legacy.step q a with
    | none => simp [hs] at h
    | some q₁ =>
      simp only [hs, Option.bind_some] at h
      exact (hq.step hs).run h

/-- A queue no step can leave: every goroutine is blocked for good. -/
def Deadlocked (q : Queue) : Prop := ∀ a, step q a = none

/-- The lost wake-up as a state: every worker is blocked in `authCond.Wait()` and still on
the waiter list, `processIndividual` is in `wg.Wait()` with work outstanding, and no event
is left for the `apiEvent` goroutine to turn into a `Signal` or `Broadcast`. Then nothing
can run again. -/
theorem deadlocked_of {q : Queue}
    (hw : ∀ i w, q.workers[i]? = some w → ∃ t, w = .waiting t ∧ i ∈ q.waiters)
    (hm : q.main = .wait) (hwg : q.wg ≠ 0) (he : q.apiEvent = [] ∨ q.listening = false)
    (ht : q.transferc = []) (hc : q.errorc = none) : Deadlocked q := by
  have hwk : ∀ i, (∃ t, q.workers[i]? = some (.waiting t) ∧ i ∈ q.waiters) ∨
      q.workers[i]? = none := fun i => by
    cases h : q.workers[i]? with
    | none => exact .inr rfl
    | some w => obtain ⟨t, rfl, hi⟩ := hw i w h; exact .inl ⟨t, rfl, hi⟩
  intro a
  cases a with
  | ready i => rcases hwk i with ⟨t, h, -⟩ | h <;> simp [step, Queue.ready, h]
  | receive i => rcases hwk i with ⟨t, h, -⟩ | h <;> simp [step, Queue.receive, h]
  | lock i => rcases hwk i with ⟨t, h, -⟩ | h <;> simp [step, Queue.lock, h]
  | wait i => rcases hwk i with ⟨t, h, -⟩ | h <;> simp [step, Queue.wait, h]
  | relock i =>
    rcases hwk i with ⟨t, h, hi⟩ | h
    · simp [step, Queue.relock, h, hi]
    · simp [step, Queue.relock, h]
  | unlock i => rcases hwk i with ⟨t, h, -⟩ | h <;> simp [step, Queue.unlock, h]
  | check i r e => rcases hwk i with ⟨t, h, -⟩ | h <;> simp [step, Queue.check, h]
  | report i => rcases hwk i with ⟨t, h, -⟩ | h <;> simp [step, Queue.report, h]
  | enqueue i => rcases hwk i with ⟨t, h, -⟩ | h <;> simp [step, Queue.enqueue, h]
  | push => simp [step, Queue.push, hm]
  | takeReady => simp [step, Queue.takeReady, hm]
  | signal => simp [step, Queue.signal, hm]
  | closeApic => simp [step, Queue.closeApic, hm]
  | waitGroup => simp [step, Queue.waitGroup, hm, hwg]
  | event => rcases he with he | he <;> simp [step, Queue.event, he]
  | transfer => simp [step, Queue.transfer, ht]
  | collect => simp [step, Queue.collect, hc]

/-- One worker, one transferable. The worker announces itself; the main loop queues the
transferable, takes the announcement and signals while nobody waits; the worker then takes
the transferable and waits on `authCond`. No `Signal` or `Broadcast` can follow: the one
worker that could call `Check` is the one waiting. -/
def lostWakeupTrace : List Act :=
  [.ready 0, .push, .takeReady, .signal, .closeApic, .receive 0, .lock 0, .wait 0]

def lostWakeup : Queue := (run (Queue.init 1 1 ["a"]) lostWakeupTrace).getD (Queue.init 1 1 ["a"])

theorem lostWakeup_deadlocked :
    Reachable 1 1 ["a"] lostWakeup ∧ lostWakeup.main = .wait ∧ lostWakeup.wg = 1 ∧
      lostWakeup.workers = [.waiting "a"] ∧ lostWakeup.waiters = [0] ∧ Deadlocked lostWakeup := by
  have hw : lostWakeup.workers = [.waiting "a"] := by decide
  refine ⟨Reachable.init.run (rfl : run (Queue.init 1 1 ["a"]) lostWakeupTrace = some lostWakeup),
    by decide, by decide, hw, by decide, deadlocked_of ?_ (by decide) (by decide) (.inl (by decide))
    (by decide) (by decide)⟩
  intro i w h
  rw [hw] at h
  cases i with
  | zero => cases h; exact ⟨"a", rfl, by decide⟩
  | succ i => simp at h

end GitLfs.Legacy
