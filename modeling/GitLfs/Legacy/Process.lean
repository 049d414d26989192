import GitLfs.Legacy.Queue

/-! # The legacy `Process` in batch mode, and its error collector

`Process` starts a goroutine that appends each error it receives on the unbuffered
`q.errorc` to `q.errors`, starts the transfer workers, and runs `processBatch`: one `Batch`
call for every transferable, whose error is sent on `errorc`, and otherwise each object with
a link of the queue's kind queued on `transferc` after `q.wg.Add(1)`. A worker sends a failed
transfer's error on `errorc` before its `q.wg.Done()`. `Process` returns after `q.wg.Wait()`
and `close(q.errorc)`, without waiting for the collector: an error the collector has received
may not be in `q.errors` yet when `Errors()` is read.
-/

namespace GitLfs.Legacy.Process

open Tq (Oid ObjectResource)

/-- An error sent on `q.errorc`: `Batch`'s, or that of an object's `Transfer`. -/
inductive Failure
  | batch (message : String)
  | transfer (t : Oid) (message : String)
  deriving DecidableEq, Repr

/-- A transfer worker of `Process`, with the transfer it holds. -/
inductive Worker
  | range
  | transfer (t : Oid)
  | report (t : Oid) (message : String)
  | done (t : Oid)
  | exited
  deriving DecidableEq, Repr

/-- Whether the worker holds a transfer that `q.wg` counts. -/
def Worker.holds : Worker → Bool
  | .transfer _ | .report _ _ | .done _ => true
  | _ => false

/-- `Process` once its goroutines run: `processBatch` calls `Batch`, then sends its error or
queues the objects left; then `q.wg.Wait()`, `close(q.errorc)` and the return. -/
inductive Main
  | call
  | fail (message : String)
  | enqueue (objects : List ObjectResource)
  | wait
  | close
  | returned
  deriving DecidableEq, Repr

/-- Whether `Process` is past `q.wg.Wait()`. -/
def Main.waited : Main → Bool
  | .close | .returned => true
  | _ => false

/-- The queue while `Process` runs in batch mode. `files` is the capacity `newTransferQueue`
gives `transferc`; `errorc` is an error the collector has received and not yet appended,
`collecting` whether it is still in its loop, and `sent` every error sent on `errorc`. -/
structure Queue where
  transferables : List Oid
  transferKind : String
  files : Nat
  main : Main
  transferc : List Oid
  transfercClosed : Bool
  wg : Nat
  workers : List Worker
  errorc : Option Failure
  errorcClosed : Bool
  collecting : Bool
  errors : List Failure
  sent : List Failure
  panicked : Bool
  deriving DecidableEq, Repr

/-- `newTransferQueue(workers, files)`, the `Add`s of `transferables` and `Process` up to
`processBatch`'s call to `Batch`. -/
def Queue.init (workers files : Nat) (transferables : List Oid) (transferKind : String) :
    Queue where
  transferables := transferables
  transferKind := transferKind
  files := files
  main := .call
  transferc := []
  transfercClosed := false
  wg := 0
  workers := List.replicate workers .range
  errorc := none
  errorcClosed := false
  collecting := true
  errors := []
  sent := []
  panicked := false

inductive Act
  | batch (r : Except String (List ObjectResource))
  | fail
  | enqueue
  | closeTransfers
  | receive (i : Nat)
  | transfer (i : Nat) (r : Option String)
  | report (i : Nat)
  | done (i : Nat)
  | wait
  | close
  | collect
  | collectorExit
  deriving Repr

namespace Queue

variable (q : Queue)

def setWorker (i : Nat) (w : Worker) : Queue := { q with workers := q.workers.set i w }

/-- `q.errorc <- e`: a send on the closed channel panics; otherwise the unbuffered send waits
for the collector to be at its receive. -/
def sendError (e : Failure) (k : Queue → Queue) : Option Queue :=
  if q.errorcClosed then some { q with panicked := true }
  else if q.errorc = none then some (k { q with errorc := some e, sent := q.sent ++ [e] })
  else none

/-- `objects, err := Batch(transfers)`, with what `Batch` returns. -/
def batch (r : Except String (List ObjectResource)) : Option Queue :=
  match q.main, r with
  | .call, .error message => some { q with main := .fail message }
  | .call, .ok objects => some { q with main := .enqueue objects }
  | _, _ => none

/-- `q.errorc <- err`, `sendApiEvent(apiEventFail)` and the return of `processBatch`. -/
def fail : Option Queue :=
  match q.main with
  | .fail message => q.sendError (.batch message) fun q => { q with main := .wait }
  | _ => none

/-- One object of the loop over `objects`: one with a link of the queue's kind, of a
transferable of the queue, is counted by `q.wg.Add(1)` and sent on `transferc`. -/
def enqueue : Option Queue :=
  match q.main with
  | .enqueue (o :: objects) =>
    if q.transferKind ∈ o.actions ∧ o.oid ∈ q.transferables then
      if q.transferc.length < max q.files 1 then
        some { q with wg := q.wg + 1, transferc := q.transferc ++ [o.oid], main := .enqueue objects }
      else none
    else some { q with main := .enqueue objects }
  | _ => none

/-- `close(q.transferc)`, `sendApiEvent(apiEventSuccess)` and the return of `processBatch`. -/
def closeTransfers : Option Queue :=
  match q.main with
  | .enqueue [] => some { q with transfercClosed := true, main := .wait }
  | _ => none

/-- `for transfer := range q.transferc`: take the next transfer, or leave once it is closed. -/
def receive (i : Nat) : Option Queue :=
  match q.workers[i]? with
  | some .range =>
    match q.transferc with
    | t :: rest => some { q.setWorker i (.transfer t) with transferc := rest }
    | [] => if q.transfercClosed then some (q.setWorker i .exited) else none
  | _ => none

/-- `transfer.Transfer(cb)`, with the error it returns, if any. -/
def transfer (i : Nat) (r : Option String) : Option Queue :=
  match q.workers[i]?, r with
  | some (.transfer t), some message => some (q.setWorker i (.report t message))
  | some (.transfer t), none => some (q.setWorker i (.done t))
  | _, _ => none

/-- `q.errorc <- err` after a failed transfer. -/
def report (i : Nat) : Option Queue :=
  match q.workers[i]? with
  | some (.report t message) => q.sendError (.transfer t message) (·.setWorker i (.done t))
  | _ => none

/-- `q.wg.Done()`: the worker goes back to `range`. -/
def done (i : Nat) : Option Queue :=
  match q.workers[i]? with
  | some (.done _) => some { q.setWorker i .range with wg := q.wg - 1 }
  | _ => none

/-- `q.wg.Wait()`. -/
def wait : Option Queue :=
  match q.main with
  | .wait => if q.wg = 0 then some { q with main := .close } else none
  | _ => none

/-- `close(q.errorc)`, and `Process` returns. -/
def close : Option Queue :=
  match q.main with
  | .close => some { q with errorcClosed := true, main := .returned }
  | _ => none

/-- The collector appends the error it received: `q.errors = append(q.errors, err)`. -/
def collect : Option Queue :=
  match q.errorc with
  | some e => some { q with errors := q.errors ++ [e], errorc := none }
  | none => none

/-- `for err := range q.errorc` ends once the channel is closed. -/
def collectorExit : Option Queue :=
  if q.collecting ∧ q.errorcClosed ∧ q.errorc = none then some { q with collecting := false }
  else none

/-- `Errors()`. -/
def Errors : List Failure := q.errors

end Queue

/-- One step of one goroutine; none runs after a panic. -/
def step (q : Queue) (a : Act) : Option Queue :=
  if q.panicked then none
  else match a with
    | .batch r => q.batch r
    | .fail => q.fail
    | .enqueue => q.enqueue
    | .closeTransfers => q.closeTransfers
    | .receive i => q.receive i
    | .transfer i r => q.transfer i r
    | .report i => q.report i
    | .done i => q.done i
    | .wait => q.wait
    | .close => q.close
    | .collect => q.collect
    | .collectorExit => q.collectorExit

/-- The states `Process` reaches, whatever `Batch` and the transfers return. -/
inductive Reachable (workers files : Nat) (transferables : List Oid) (kind : String) :
    Queue → Prop
  | init : Reachable workers files transferables kind (Queue.init workers files transferables kind)
  | step {q q' : Queue} {a : Act} : Reachable workers files transferables kind q →
      step q a = some q' → Reachable workers files transferables kind q'

def run : Queue → List Act → Option Queue
  | q, [] => some q
  | q, a :: as => (step q a).bind (run · as)

theorem Reachable.run {w f : Nat} {ts : List Oid} {k : String} :
    ∀ {q q' : Queue} {as : List Act}, Reachable w f ts k q → Process.run q as = some q' →
      Reachable w f ts k q'
  | _, _, [], hq, h => by cases h; exact hq
  | q, _, a :: as, hq, h => by
    obtain ⟨q₁, h₁, h₂⟩ := Option.bind_eq_some.mp h
    exact (hq.step h₁).run h₂

/-! ### What every interleaving keeps -/

theorem countP_holds_set {ws : List Worker} {i : Nat} {w : Worker} (w' : Worker)
    (h : ws[i]? = some w) :
    (ws.set i w').countP Worker.holds + (if w.holds then 1 else 0) =
      ws.countP Worker.holds + (if w'.holds then 1 else 0) := by
  obtain ⟨hi, rfl⟩ := List.getElem?_eq_some_iff.mp h
  have := List.boole_getElem_le_countP Worker.holds ws i hi
  rw [List.countP_set _ _ _ _ hi]
  omega

/-- What every interleaving of `Process` keeps. Every error sent on `errorc` is in
`q.errors` or is the one the collector holds; `q.wg` counts the transfers queued and those
the workers hold, none once `Process` is past `q.wg.Wait()`; `errorc` is closed exactly when
`Process` has returned, and the collector leaves only once it is closed and drained. No
goroutine panics. -/
structure Sound (q : Queue) : Prop where
  ledger : q.errors ++ q.errorc.toList = q.sent
  wg : q.wg = q.transferc.length + q.workers.countP Worker.holds
  drained : q.main.waited = true → q.wg = 0
  closed : q.errorcClosed = true ↔ q.main = .returned
  collected : q.collecting = false → q.errorcClosed = true ∧ q.errorc = none
  safe : q.panicked = false

theorem sound_init (workers files : Nat) (ts : List Oid) (kind : String) :
    Sound (Queue.init workers files ts kind) where
  ledger := rfl
  wg := by simp [Queue.init, List.countP_replicate, Worker.holds]
  drained h := by cases h
  closed := by simp [Queue.init]
  collected h := by cases h
  safe := rfl

variable {q q' : Queue}

theorem Sound.busy {i : Nat} {w : Worker} (hs : Sound q) (hw : q.workers[i]? = some w)
    (hh : w.holds = true) : q.main.waited = false ∧ q.errorcClosed = false := by
  have hpos : 0 < q.workers.countP Worker.holds :=
    List.countP_pos_iff.mpr ⟨w, List.getElem?_mem hw, hh⟩
  have hwait : q.main.waited = false := by
    cases h : q.main.waited
    · rfl
    · have := hs.drained h; have := hs.wg; omega
  refine ⟨hwait, ?_⟩
  cases hc : q.errorcClosed
  · rfl
  · rw [hs.closed.mp hc] at hwait; cases hwait

theorem Sound.errorc_open (hs : Sound q) (h : q.main ≠ .returned) : q.errorcClosed = false := by
  cases hc : q.errorcClosed
  · rfl
  · exact absurd (hs.closed.mp hc) h

theorem sendError_cases {e : Failure} {k : Queue → Queue} (h : q.sendError e k = some q') :
    (q.errorcClosed = true ∧ q' = { q with panicked := true }) ∨
      (q.errorcClosed = false ∧ q.errorc = none ∧
        q' = k { q with errorc := some e, sent := q.sent ++ [e] }) := by
  unfold Queue.sendError at h
  split at h
  · cases h; exact .inl ⟨‹_›, rfl⟩
  · split at h
    · cases h; exact .inr ⟨Bool.eq_false_iff.mpr ‹_›, ‹_›, rfl⟩
    · cases h

theorem Sound.hand {e : Failure} (hs : Sound q) (hc : q.errorcClosed = false)
    (he : q.errorc = none) : Sound { q with errorc := some e, sent := q.sent ++ [e] } :=
  ⟨by simp [← hs.ledger, he], hs.wg, hs.drained, hs.closed,
    fun h => absurd (hs.collected h).1 (by simp [hc]), hs.safe⟩

theorem Sound.advance {m : Main} (hs : Sound q) (hm : q.main ≠ .returned)
    (hm' : m.waited = false) : Sound { q with main := m } :=
  ⟨hs.ledger, hs.wg, (absurd · (by simp [hm'])),
    by cases m <;> simp_all [hs.errorc_open hm, Main.waited], hs.collected, hs.safe⟩

theorem Sound.hold {i : Nat} {w w' : Worker} (hs : Sound q) (hw : q.workers[i]? = some w)
    (hh : w.holds = true) (hh' : w'.holds = true) : Sound (q.setWorker i w') := by
  have := countP_holds_set w' hw
  have := hs.wg
  simp only [hh, hh', ↓reduceIte] at *
  exact ⟨hs.ledger, by simp only [Queue.setWorker]; omega, hs.drained, hs.closed, hs.collected,
    hs.safe⟩

/-! ### Each action keeps it -/

theorem Sound.batch {r : Except String (List ObjectResource)} (hs : Sound q)
    (h : q.batch r = some q') : Sound q' := by
  unfold Queue.batch at h
  split at h <;> cases h <;> exact hs.advance (by simp [‹q.main = _›]) rfl

theorem Sound.fail (hs : Sound q) (h : q.fail = some q') : Sound q' := by
  unfold Queue.fail at h
  split at h
  · rename_i m hm
    have hc := hs.errorc_open (by simp [hm])
    rcases sendError_cases h with ⟨hc', -⟩ | ⟨-, he, rfl⟩
    · simp [hc] at hc'
    · exact (hs.hand hc he).advance (by simp [hm]) rfl
  · cases h

theorem Sound.enqueue (hs : Sound q) (h : q.enqueue = some q') : Sound q' := by
  unfold Queue.enqueue at h
  split at h
  · rename_i o objects hm
    have ha := hs.advance (m := .enqueue objects) (by simp [hm]) rfl
    split at h
    · split at h
      · cases h
        exact ⟨hs.ledger, by simp [hs.wg]; omega, (absurd · Bool.false_ne_true), ha.closed,
          hs.collected, hs.safe⟩
      · cases h
    · cases h
      exact ha
  · cases h

theorem Sound.closeTransfers (hs : Sound q) (h : q.closeTransfers = some q') : Sound q' := by
  unfold Queue.closeTransfers at h
  split at h
  · cases h
    exact Sound.advance (q := { q with transfercClosed := true })
      ⟨hs.1, hs.2, hs.3, hs.4, hs.5, hs.6⟩ (by simp [‹q.main = _›]) rfl
  · cases h

theorem Sound.receive {i : Nat} (hs : Sound q) (h : q.receive i = some q') : Sound q' := by
  unfold Queue.receive at h
  split at h
  · rename_i hw
    have hwg := hs.wg
    split at h
    · rename_i t rest ht
      cases h
      have := countP_holds_set (.transfer t) hw
      simp only [Worker.holds, Bool.false_eq_true, ↓reduceIte] at this
      refine ⟨hs.ledger, ?_, hs.drained, hs.closed, hs.collected, hs.safe⟩
      simp only [Queue.setWorker, ht, List.length_cons] at hwg ⊢
      omega
    · split at h
      · cases h
        have := countP_holds_set .exited hw
        simp only [Worker.holds, Bool.false_eq_true, ↓reduceIte] at this
        refine ⟨hs.ledger, ?_, hs.drained, hs.closed, hs.collected, hs.safe⟩
        simp only [Queue.setWorker] at hwg ⊢
        omega
      · cases h
  · cases h

theorem Sound.transfer {i : Nat} {r : Option String} (hs : Sound q)
    (h : q.transfer i r = some q') : Sound q' := by
  unfold Queue.transfer at h
  split at h
  · cases h; exact hs.hold ‹_› (by rfl) (by rfl)
  · cases h; exact hs.hold ‹_› (by rfl) (by rfl)
  · cases h

theorem Sound.report {i : Nat} (hs : Sound q) (h : q.report i = some q') : Sound q' := by
  unfold Queue.report at h
  split at h
  · rename_i hw
    have hb := hs.busy hw rfl
    rcases sendError_cases h with ⟨hc, -⟩ | ⟨-, he, rfl⟩
    · simp [hb.2] at hc
    · exact (hs.hand hb.2 he).hold (w := .report _ _) hw rfl rfl
  · cases h

theorem Sound.done {i : Nat} (hs : Sound q) (h : q.done i = some q') : Sound q' := by
  unfold Queue.done at h
  split at h
  · rename_i hw
    cases h
    have hb := hs.busy hw rfl
    have hn := countP_holds_set .range hw
    have := hs.wg
    simp only [Worker.holds, Bool.false_eq_true, ↓reduceIte] at hn
    refine ⟨hs.ledger, ?_, by simp [Queue.setWorker, hb.1], hs.closed, hs.collected, hs.safe⟩
    simp only [Queue.setWorker]
    omega
  · cases h

theorem Sound.wait (hs : Sound q) (h : q.wait = some q') : Sound q' := by
  unfold Queue.wait at h
  split at h
  · split at h
    · cases h
      exact ⟨hs.ledger, hs.wg, fun _ => ‹_›, by simp [hs.closed, ‹q.main = _›], hs.collected,
        hs.safe⟩
    · cases h
  · cases h

theorem Sound.close (hs : Sound q) (h : q.close = some q') : Sound q' := by
  unfold Queue.close at h
  split at h
  · cases h
    exact ⟨hs.ledger, hs.wg, fun _ => hs.drained (by simp [‹q.main = _›, Main.waited]),
      by simp, fun h => ⟨rfl, (hs.collected h).2⟩, hs.safe⟩
  · cases h

theorem Sound.collect (hs : Sound q) (h : q.collect = some q') : Sound q' := by
  unfold Queue.collect at h
  split at h
  · rename_i e he
    cases h
    exact ⟨by simpa [he] using hs.ledger, hs.wg, hs.drained, hs.closed,
      fun h => ⟨(hs.collected h).1, rfl⟩, hs.safe⟩
  · cases h

theorem Sound.collectorExit (hs : Sound q) (h : q.collectorExit = some q') : Sound q' := by
  unfold Queue.collectorExit at h
  split at h
  · cases h
    exact ⟨hs.ledger, hs.wg, hs.drained, hs.closed, fun _ => by simp_all, hs.safe⟩
  · cases h

theorem step_sound {a : Act} (hs : Sound q) (h : step q a = some q') : Sound q' := by
  unfold step at h
  split at h
  · cases h
  · cases a
    case batch => exact hs.batch h
    case fail => exact hs.fail h
    case enqueue => exact hs.enqueue h
    case closeTransfers => exact hs.closeTransfers h
    case receive => exact hs.receive h
    case transfer => exact hs.transfer h
    case report => exact hs.report h
    case done => exact hs.done h
    case wait => exact hs.wait h
    case close => exact hs.close h
    case collect => exact hs.collect h
    case collectorExit => exact hs.collectorExit h

theorem reachable_sound {w f : Nat} {ts : List Oid} {k : String} (h : Reachable w f ts k q) :
    Sound q := by
  induction h with
  | init => exact sound_init w f ts k
  | step _ hs ih => exact step_sound ih hs

/-! ### What `Errors()` lists -/

theorem collector_drains (hs : Sound q) (hm : q.main = .returned) :
    ∃ as q', run q as = some q' ∧ q'.collecting = false ∧ q'.Errors = q.sent := by
  have hc : q.errorcClosed = true := hs.closed.mpr hm
  cases hco : q.collecting
  · exact ⟨[], q, rfl, hco, by simpa [(hs.collected hco).2, Queue.Errors] using hs.ledger⟩
  · cases he : q.errorc with
    | none =>
      refine ⟨[.collectorExit], { q with collecting := false }, ?_, rfl,
        by simpa [he, Queue.Errors] using hs.ledger⟩
      simp [run, step, hs.safe, Queue.collectorExit, hco, hc, he]
    | some e =>
      refine ⟨[.collect, .collectorExit],
        { q with errors := q.errors ++ [e], errorc := none, collecting := false }, ?_, rfl,
        by simpa [he, Queue.Errors] using hs.ledger⟩
      simp [run, step, hs.safe, Queue.collect, Queue.collectorExit, hco, hc, he]

/-- Whatever `Batch` and the transfers return, and in every interleaving, no goroutine of
`Process` panics, and `Errors()` lists every error sent on `errorc` but the one the collector
may hold; once the collector has left its loop it lists them all. Once `Process` has
returned, the collector can always finish, and `Errors()` then lists every error sent. -/
theorem errors_after_process {w f : Nat} {ts : List Oid} {k : String} (h : Reachable w f ts k q) :
    q.panicked = false ∧ q.Errors ++ q.errorc.toList = q.sent ∧
      (q.collecting = false → q.Errors = q.sent) ∧
      (q.main = .returned →
        ∃ as q', run q as = some q' ∧ q'.collecting = false ∧ q'.Errors = q.sent) := by
  have hs := reachable_sound h
  refine ⟨hs.safe, hs.ledger, fun hc => ?_, collector_drains hs⟩
  simpa [(hs.collected hc).2] using hs.ledger

/-- `Batch` fails: `processBatch` hands its error to the collector and returns, `q.wg.Wait()`
returns at once, and `Process` closes `errorc` and returns. -/
def batchFailure (message : String) : List Act := [.batch (.error message), .fail, .wait, .close]

/-- For every queue, when `Batch` fails there is an interleaving in which `Process` returns
with the error sent on `errorc` and `Errors()` still empty: the collector has received the
error and not yet appended it. -/
theorem errors_miss_batch_failure (workers files : Nat) (ts : List Oid) (kind message : String) :
    ∃ q, Reachable workers files ts kind q ∧ q.main = .returned ∧ q.sent = [.batch message] ∧
      q.Errors = [] :=
  ⟨_, Reachable.init.run (rfl : run (Queue.init workers files ts kind) (batchFailure message) =
    some { Queue.init workers files ts kind with
      main := .returned, errorc := some (.batch message), errorcClosed := true,
      sent := [.batch message] }), rfl, rfl, rfl⟩

/-- The queue of one object, whose `Batch` call fails. -/
def batchFailed : Queue :=
  (run (Queue.init 1 1 ["a"] "upload") (batchFailure "boom")).getD (Queue.init 1 1 ["a"] "upload")

theorem batchFailed_errors :
    batchFailed.panicked = false ∧ batchFailed.Errors ++ batchFailed.errorc.toList = batchFailed.sent ∧
      (batchFailed.collecting = false → batchFailed.Errors = batchFailed.sent) ∧
      (batchFailed.main = .returned → ∃ as q', run batchFailed as = some q' ∧
        q'.collecting = false ∧ q'.Errors = batchFailed.sent) :=
  errors_after_process (Reachable.init.run
    (rfl : run (Queue.init 1 1 ["a"] "upload") (batchFailure "boom") = some batchFailed))

/-- A transfer fails the same way: the worker's send precedes its `q.wg.Done()`. -/
example : ((run (Queue.init 1 1 ["a"] "upload")
    [.batch (.ok [⟨"a", 1, ["upload"], none⟩]), .enqueue, .closeTransfers, .receive 0,
      .transfer 0 (some "timeout"), .report 0, .done 0, .wait, .close]).map
        fun q => (q.main, q.sent, q.Errors)) =
      some (.returned, [.transfer "a" "timeout"], []) := by decide

end GitLfs.Legacy.Process
