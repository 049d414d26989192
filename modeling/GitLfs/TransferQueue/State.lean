import GitLfs.TransferQueue.Basic

/-! # The state of a running transfer queue

The shared fields of `TransferQueue`, the program points of its goroutines (the callers of
`Add` and `Wait`, `collectBatches`, the goroutine `addToAdapter` starts, and the error
collector), and a few fields no code reads, which record what a run has done.
-/

namespace GitLfs.Tq

/-- Where an added oid leaves the queue, that is, which `q.wait.Done()` closes it out. -/
inductive Outcome
  | batchFailed
  | objectFailed
  | skipped
  | beginFailed
  | succeeded
  | transferFailed
  deriving DecidableEq, Repr

/-- The terminal failures; the other two outcomes are a success and a skip. -/
def Outcome.failed : Outcome → Bool
  | .succeeded | .skipped => false
  | _ => true

/-- The goroutine of `addToAdapter` inside `handleTransferResult`. -/
inductive Handling
  | idle
  | notify (t : Transferable) (k : Nat)
  | report (t : Transferable) (e : Err) (done : Bool)
  | finish (t : Transferable) (o : Outcome)
  deriving DecidableEq, Repr

/-- The goroutine of `addToAdapter`: running, with the transfers the adapter has not yet
answered, or returned after closing `retries`. -/
inductive Feeder
  | running (pending : Batch) (handling : Handling)
  | closed
  deriving DecidableEq, Repr

/-- That goroutine and the buffer of its `retries` channel. -/
structure Results where
  retries : Batch
  feeder : Feeder
  deriving DecidableEq, Repr

/-- The program points of `collectBatches`, with the calls it makes inlined:
`enqueueAndCollectRetriesFor` (its error loop `requeue`, its response loop `scan` and
`skip`) and `addToAdapter` (`begin`, and on a failed `Begin`, `abandon` and `drop`). -/
inductive Collector
  | fill (closing : Bool) (batch : Batch)
  | negotiate (closing : Bool) (batch : Batch)
  | requeue (closing : Bool) (err : Err) (rest next : Batch)
  | forward (closing : Bool) (err : Err) (next : Batch)
  | scan (closing : Bool) (objs : List ObjectResource) (toTransfer : Batch)
  | skip (closing : Bool) (oid : Oid) (objs : List ObjectResource) (toTransfer : Batch)
  | begin (closing : Bool) (pending : Batch)
  | abandon (closing : Bool) (err : Err) (pending : Batch)
  | drop (closing : Bool) (pending : Batch)
  | collect (closing : Bool) (next : Batch) (r : Results)
  | exited
  deriving DecidableEq, Repr

/-- The caller of `Wait`, statement by statement. -/
inductive WaitPc
  | idle
  | drain
  | finish
  | close
  | join
  | returned
  deriving DecidableEq, Repr

/-- `q.wait.Wait()` has returned: past this point `Wait` only closes things down. -/
@[simp] def WaitPc.drained : WaitPc → Bool
  | .idle | .drain => false
  | .finish | .close | .join | .returned => true

/-- A channel returned by `Watch`, and every oid ever sent on it. -/
structure Watcher where
  buf : List Oid
  closed : Bool
  sent : List Oid
  deriving DecidableEq, Repr

/-- The options of `NewTransferQueue`, and the number of `Watch` channels, all of them
registered before the first `Add`. -/
structure Config where
  batchSize : Nat
  bufferDepth : Nat
  dryRun : Bool
  direction : Direction
  watchers : Nat

/-- `NewTransferQueue(transfer.Upload)` with no options and no watcher. -/
def defaultConfig : Config := ⟨defaultBatchSize, defaultBatchSize, false, .upload, 0⟩

/-- A transfer queue and its goroutines. `transferables` is the map by oid in insertion
order; `adding` holds the callers of `Add` blocked on `q.incoming <- t`; `holding` is the
error the error collector has received and not yet appended. The last six fields record
the run: what was sent on `q.incoming`, each `q.wait.Done()` with its oid, each batch
passed to `api.Batch`, each oid passed to `adapter.Add`, and the adapter's `Begin` and
`End` calls. -/
structure Queue where
  transferables : List Transferable
  wait : Nat
  adding : Batch
  incoming : Batch
  incomingClosed : Bool
  collector : Collector
  rc : RetryCounter
  adapter : Option String
  adapterInProgress : Bool
  holding : Option QueueError
  errorcClosed : Bool
  errorsDone : Bool
  errors : List QueueError
  watchers : List Watcher
  waitPc : WaitPc
  panicked : Bool
  sent : Batch
  outcomes : List (Oid × Outcome)
  calls : List Batch
  dispatched : List Oid
  begun : Nat
  ended : Nat

/-- `NewTransferQueue` followed by the `Watch` calls: both goroutines of `run` started. -/
def Queue.init (c : Config) (rc : RetryCounter) : Queue where
  transferables := []
  wait := 0
  adding := []
  incoming := []
  incomingClosed := false
  collector := .fill false []
  rc := rc
  adapter := none
  adapterInProgress := false
  holding := none
  errorcClosed := false
  errorsDone := false
  errors := []
  watchers := List.replicate c.watchers ⟨[], false, []⟩
  waitPc := .idle
  panicked := false
  sent := []
  outcomes := []
  calls := []
  dispatched := []
  begun := 0
  ended := 0

/-! ### Where the added oids are -/

def oids (b : Batch) : List Oid := b.map (·.oid)

@[simp] theorem oids_nil : oids [] = [] := rfl
@[simp] theorem oids_cons (t : Transferable) (b : Batch) : oids (t :: b) = t.oid :: oids b := rfl
@[simp] theorem oids_append (b b' : Batch) : oids (b ++ b') = oids b ++ oids b' :=
  List.map_append _ _ _
@[simp] theorem length_oids (b : Batch) : (oids b).length = b.length := List.length_map _ _
theorem mem_oids_of_mem {t : Transferable} {b : Batch} (h : t ∈ b) : t.oid ∈ oids b :=
  List.mem_map_of_mem _ h

/-- The oid `handleTransferResult` is working on. An error report that is not followed by
`q.wait.Done()` holds nothing: that oid is never closed out. -/
def Handling.oids : Handling → List Oid
  | .idle => []
  | .notify t _ => [t.oid]
  | .report t _ d => if d then [t.oid] else []
  | .finish t _ => [t.oid]

def Feeder.oids : Feeder → List Oid
  | .running pending h => Tq.oids pending ++ h.oids
  | .closed => []

attribute [simp] Handling.oids.eq_1 Handling.oids.eq_2 Handling.oids.eq_3 Handling.oids.eq_4
  Feeder.oids.eq_1 Feeder.oids.eq_2

@[simp] def Results.oids (r : Results) : List Oid := Tq.oids r.retries ++ r.feeder.oids

/-- The oids `collectBatches` and the goroutine of `addToAdapter` hold. -/
def Collector.oids : Collector → List Oid
  | .fill _ b => Tq.oids b
  | .negotiate _ b => Tq.oids b
  | .requeue _ _ rest next => Tq.oids rest ++ Tq.oids next
  | .forward _ _ next => Tq.oids next
  | .scan _ objs tt => objs.map (·.oid) ++ Tq.oids tt
  | .skip _ x objs tt => x :: (objs.map (·.oid) ++ Tq.oids tt)
  | .begin _ pending => Tq.oids pending
  | .abandon _ _ pending => Tq.oids pending
  | .drop _ pending => Tq.oids pending
  | .collect _ next r => Tq.oids next ++ r.oids
  | .exited => []

attribute [simp] Collector.oids.eq_1 Collector.oids.eq_2 Collector.oids.eq_3 Collector.oids.eq_4
  Collector.oids.eq_5 Collector.oids.eq_6 Collector.oids.eq_7 Collector.oids.eq_8
  Collector.oids.eq_9 Collector.oids.eq_10 Collector.oids.eq_11

namespace Queue

variable (q : Queue)

/-- Every added oid not yet closed out, wherever it is: in an `Add` blocked on its send, in
the buffer of `q.incoming`, or with `collectBatches` and its adapter goroutine. -/
def pipeline : List Oid := oids q.adding ++ oids q.incoming ++ q.collector.oids

def keys : List Oid := oids q.transferables

def terminal : List Oid := q.outcomes.map (·.1)

def lookup (oid : Oid) : Option Transferable := q.transferables.find? (·.oid == oid)

theorem lookup_oid {oid : Oid} {t : Transferable} (h : q.lookup oid = some t) : t.oid = oid := by
  simpa using List.find?_some h

theorem lookup_isSome {oid : Oid} (h : oid ∈ q.keys) : (q.lookup oid).isSome := by
  obtain ⟨t, ht, rfl⟩ := List.mem_map.mp h
  simpa [lookup, List.find?_isSome] using ⟨t, ht, rfl⟩

end Queue

end GitLfs.Tq
