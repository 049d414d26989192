import GitLfs.TransferQueue.State

/-! # One step of the transfer queue

Each action is one statement of one goroutine that touches a channel or shared state; the
purely local work around it is folded in. A step returns `none` where the goroutine is
blocked or is not at that statement, and a panic (a send on a closed channel, a negative
wait counter, a method called on a nil interface) freezes the queue.
-/

namespace GitLfs.Tq

/-- What the response loop of `enqueueAndCollectRetriesFor` does with one object. -/
inductive Disposal
  | fail (e : ObjectError)
  | skip
  | transfer (t : Transferable)
  | nilTransferable
  deriving DecidableEq, Repr

/-- The branches of the response loop. An object with a link relation whose oid has no
transferable reaches `q.Skip(t.Size())` with `t` the nil interface. -/
def dispose (kind : String) (lookup : Oid → Option Transferable) (o : ObjectResource) :
    Disposal :=
  match o.error with
  | some e => .fail e
  | none =>
    if o.rel kind then
      match lookup o.oid with
      | some t => .transfer t
      | none => .nilTransferable
    else .skip

/-- The end of one round of `collectBatches`: it stops once it is closing and no object
is to be retried, and otherwise fills the next batch from the retries. -/
def endRound (closing : Bool) (next : Batch) : Collector :=
  if closing && next.isEmpty then .exited else .fill closing next

inductive Act
  | add (t : Transferable)
  | send (t : Transferable)
  | receive
  | dispatch
  | negotiate (r : Except Err (String × List ObjectResource))
  | requeue
  | forward
  | scan
  | skip
  | begin (r : Option Err)
  | abandon
  | drop
  | result (t : Transferable) (err : Option Err)
  | notify
  | report
  | finish
  | closeRetries
  | retry
  | endRound
  | waitStart
  | waitWake
  | finishAdapter
  | closeErrors
  | waitReturn
  | collectError
  | collectorExit
  | consume (w : Nat)
  deriving Repr

namespace Queue

variable (c : Config) (q : Queue)

def crash : Queue := { q with panicked := true }

/-- `q.errorc <- e`: a send on the closed channel panics; otherwise the error collector
takes the error once it holds no other. -/
def sendError (e : QueueError) (k : Queue → Queue) : Option Queue :=
  if q.errorcClosed then some q.crash
  else if q.holding = none then some (k { q with holding := some e })
  else none

/-- `q.wait.Done()` for an oid leaving the queue; a negative counter panics. -/
def done (oid : Oid) (o : Outcome) (k : Queue → Queue) : Option Queue :=
  if q.wait = 0 then some q.crash
  else some (k { q with wait := q.wait - 1, outcomes := q.outcomes ++ [(oid, o)] })

def finishAdapter : Queue :=
  if q.adapterInProgress then
    { q with adapterInProgress := false, adapter := none, ended := q.ended + 1 }
  else q

def useAdapter (name : String) : Queue :=
  match q.adapter with
  | some a => if a = name then q else { q.finishAdapter with adapter := some name }
  | none => { q with adapter := some name }

def setResults (closing : Bool) (next : Batch) (r : Results) : Queue :=
  { q with collector := .collect closing next r }

/-- `Add`: a caller that is new for its oid counts it, records it and goes on to send it;
a caller that is not returns at once. Callers stop calling `Add` once `Wait` is called. -/
def add (t : Transferable) : Option Queue :=
  if q.waitPc ≠ .idle then none
  else if t.oid ∈ q.keys then some q
  else some { q with wait := q.wait + 1, transferables := q.transferables ++ [t],
                     adding := q.adding ++ [t] }

/-- The send `q.incoming <- t` of a caller of `Add`. An unbuffered channel is taken as a
buffer of one place. -/
def send (t : Transferable) : Option Queue :=
  if t ∉ q.adding then none
  else if q.incomingClosed then some q.crash
  else if q.incoming.length < max c.bufferDepth 1 then
    some { q with adding := q.adding.erase t, incoming := q.incoming ++ [t],
                  sent := q.sent ++ [t] }
  else none

/-- `t, ok := <-q.incoming` in the fill loop of `collectBatches`. -/
def receive : Option Queue :=
  match q.collector with
  | .fill false batch =>
    if batch.isFull c.batchSize then none
    else match q.incoming with
      | t :: rest => some { q with incoming := rest, collector := .fill false (batch ++ [t]) }
      | [] => if q.incomingClosed then some { q with collector := .fill true batch } else none
  | _ => none

/-- The fill loop ends on a full batch or once closing; the batch is sorted largest first. -/
def dispatch : Option Queue :=
  match q.collector with
  | .fill closing batch =>
    if closing || batch.isFull c.batchSize then
      some { q with collector := .negotiate closing batch.sortDesc }
    else none
  | _ => none

/-- `api.Batch` returns; on success `useAdapter` runs before the response loop. -/
def negotiate (r : Except Err (String × List ObjectResource)) : Option Queue :=
  match q.collector with
  | .negotiate closing batch =>
    match r with
    | .error e =>
      some { q with calls := q.calls ++ [batch], collector := .requeue closing e batch [] }
    | .ok (name, objs) =>
      some { q.useAdapter name with calls := q.calls ++ [batch],
                                    collector := .scan closing objs [] }
  | _ => none

/-- One object of the error loop: retried with its count incremented, or closed out. -/
def requeue : Option Queue :=
  match q.collector with
  | .requeue closing e (t :: rest) next =>
    if canRetryObject q.rc t.oid e then
      some { q with rc := q.rc.increment t.oid, collector := .requeue closing e rest (next ++ [t]) }
    else q.done t.oid .batchFailed fun q => { q with collector := .requeue closing e rest next }
  | .requeue closing e [] next => some { q with collector := .forward closing e next }
  | _ => none

/-- `collectBatches` sends the error `enqueueAndCollectRetriesFor` returned. -/
def forward : Option Queue :=
  match q.collector with
  | .forward closing e next =>
    q.sendError (.batch e) fun q => { q with collector := endRound closing next }
  | _ => none

/-- One object of the response loop, or its end, which calls `addToAdapter`. -/
def scan : Option Queue :=
  match q.collector with
  | .scan closing [] tt => some { q with collector := .begin closing tt }
  | .scan closing (o :: objs) tt =>
    match dispose (transferKind c.direction) q.lookup o with
    | .fail e =>
      q.sendError (.object o.oid e) fun q => { q with collector := .skip closing o.oid objs tt }
    | .skip => q.done o.oid .skipped fun q => { q with collector := .scan closing objs tt }
    | .transfer t => some { q with collector := .scan closing objs (tt ++ [t]) }
    | .nilTransferable => some q.crash
  | _ => none

/-- After an object error is sent: `q.wait.Done()` for that object. -/
def skip : Option Queue :=
  match q.collector with
  | .skip closing x objs tt => q.done x .objectFailed fun q => { q with collector := .scan closing objs tt }
  | _ => none

/-- The goroutine of `addToAdapter` starts and hands the transfers to the adapter. -/
def spawn (closing : Bool) (pending : Batch) : Queue :=
  { q with collector := .collect closing [] ⟨[], .running pending .idle⟩,
           dispatched := if c.dryRun then q.dispatched else q.dispatched ++ oids pending }

/-- `ensureAdapterBegun`, with the result `r` of `Begin` when it is called. -/
def begin (r : Option Err) : Option Queue :=
  match q.collector with
  | .begin closing pending =>
    if q.adapterInProgress then some (q.spawn c closing pending)
    else match q.adapter, r with
      | none, _ => some q.crash
      | some _, none =>
        some ({ q with adapterInProgress := true, begun := q.begun + 1 }.spawn c closing pending)
      | some _, some e => some { q with collector := .abandon closing e pending }
  | _ => none

/-- A failed `Begin`: `q.errorc <- err` after closing `retries`. -/
def abandon : Option Queue :=
  match q.collector with
  | .abandon closing e pending =>
    q.sendError (.begin e) fun q => { q with collector := .drop closing pending }
  | _ => none

/-- A failed `Begin`: `q.wait.Done()` for each pending transfer; then the empty, closed
`retries` ends the round. -/
def drop : Option Queue :=
  match q.collector with
  | .drop closing (t :: rest) =>
    q.done t.oid .beginFailed fun q => { q with collector := .drop closing rest }
  | .drop closing [] => some { q with collector := endRound closing [] }
  | _ => none

/-- The adapter yields the result of the pending transfer `t`, and `handleTransferResult`
runs up to its first blocking send; a retry goes on the buffered `retries`. -/
def result (t : Transferable) (err : Option Err) : Option Queue :=
  match q.collector with
  | .collect closing next ⟨retries, .running pending .idle⟩ =>
    if t ∉ pending ∨ (c.dryRun ∧ err.isSome) then none
    else
      let set (retries : Batch) (h : Handling) :=
        q.setResults closing next ⟨retries, .running (pending.erase t) h⟩
      match err with
      | none => some (set retries (.notify t 0))
      | some e =>
        if canRetryObject q.rc t.oid e then
          match q.lookup t.oid with
          | some t' => some (set (retries ++ [t']) .idle)
          | none => some (set retries (.report t e false))
        else some (set retries (.report t e true))
  | _ => none

/-- `c <- oid` for the next watcher, then `FinishTransfer`. -/
def notify : Option Queue :=
  match q.collector with
  | .collect closing next ⟨retries, .running pending (.notify t k)⟩ =>
    match q.watchers[k]? with
    | none => some (q.setResults closing next ⟨retries, .running pending (.finish t .succeeded)⟩)
    | some w =>
      if w.closed then some q.crash
      else if w.buf.length < max c.batchSize 1 then
        some { q.setResults closing next ⟨retries, .running pending (.notify t (k + 1))⟩ with
               watchers := q.watchers.set k { w with buf := w.buf ++ [t.oid],
                                                     sent := w.sent ++ [t.oid] } }
      else none
  | _ => none

/-- `q.errorc <- res.Error` in `handleTransferResult`, with the transfer's oid as a ghost tag. -/
def report : Option Queue :=
  match q.collector with
  | .collect closing next ⟨retries, .running pending (.report t e d)⟩ =>
    q.sendError (.transfer t.oid e) fun q =>
      q.setResults closing next
        ⟨retries, .running pending (if d then .finish t .transferFailed else .idle)⟩
  | _ => none

/-- `q.wait.Done()` in `handleTransferResult`. -/
def finish : Option Queue :=
  match q.collector with
  | .collect closing next ⟨retries, .running pending (.finish t o)⟩ =>
    q.done t.oid o fun q => q.setResults closing next ⟨retries, .running pending .idle⟩
  | _ => none

/-- The adapter has answered every transfer: the goroutine closes `retries`. -/
def closeRetries : Option Queue :=
  match q.collector with
  | .collect closing next ⟨retries, .running [] .idle⟩ =>
    some (q.setResults closing next ⟨retries, .closed⟩)
  | _ => none

/-- `for t := range retries` in `enqueueAndCollectRetriesFor`: increment and requeue. -/
def retry : Option Queue :=
  match q.collector with
  | .collect closing next ⟨t :: rest, f⟩ =>
    some { q.setResults closing (next ++ [t]) ⟨rest, f⟩ with rc := q.rc.increment t.oid }
  | _ => none

/-- `retries` is closed and drained: `enqueueAndCollectRetriesFor` returns without error. -/
def endRound : Option Queue :=
  match q.collector with
  | .collect closing next ⟨[], .closed⟩ => some { q with collector := Tq.endRound closing next }
  | _ => none

/-- `Wait` closes `q.incoming`; every `Add` has returned before it is called. -/
def waitStart : Option Queue :=
  if q.waitPc = .idle ∧ q.adding = [] then
    if q.incomingClosed then some q.crash
    else some { q with incomingClosed := true, waitPc := .drain }
  else none

/-- `q.wait.Wait()` returns. -/
def waitWake : Option Queue :=
  if q.waitPc = .drain ∧ q.wait = 0 then some { q with waitPc := .finish } else none

def finishAdapterStep : Option Queue :=
  if q.waitPc = .finish then some { q.finishAdapter with waitPc := .close } else none

/-- `close(q.errorc)` and the watchers. -/
def closeErrors : Option Queue :=
  if q.waitPc = .close then
    if q.errorcClosed then some q.crash
    else some { q with errorcClosed := true, waitPc := .join,
                       watchers := q.watchers.map fun w => { w with closed := true } }
  else none

/-- `q.errorwait.Wait()` returns, and so does `Wait`. -/
def waitReturn : Option Queue :=
  if q.waitPc = .join ∧ q.errorsDone then some { q with waitPc := .returned } else none

/-- The error collector appends the error it received. -/
def collectError : Option Queue :=
  match q.holding with
  | some e => some { q with errors := q.errors ++ [e], holding := none }
  | none => none

/-- The error collector sees `q.errorc` closed and calls `q.errorwait.Done()`. -/
def collectorExit : Option Queue :=
  if q.errorcClosed ∧ q.holding = none ∧ q.errorsDone = false then
    some { q with errorsDone := true }
  else none

/-- Whoever reads the `w`-th watcher takes an oid from it. -/
def consume (w : Nat) : Option Queue :=
  match q.watchers[w]? with
  | some v =>
    match v.buf with
    | _ :: rest => some { q with watchers := q.watchers.set w { v with buf := rest } }
    | [] => none
  | none => none

end Queue

/-- One step of the queue: the action of one goroutine, or `none` if it cannot run. -/
def step (c : Config) (q : Queue) : Act → Option Queue
  | .add t => if q.panicked then none else q.add t
  | .send t => if q.panicked then none else q.send c t
  | .receive => if q.panicked then none else q.receive c
  | .dispatch => if q.panicked then none else q.dispatch c
  | .negotiate r => if q.panicked then none else q.negotiate r
  | .requeue => if q.panicked then none else q.requeue
  | .forward => if q.panicked then none else q.forward
  | .scan => if q.panicked then none else q.scan c
  | .skip => if q.panicked then none else q.skip
  | .begin r => if q.panicked then none else q.begin c r
  | .abandon => if q.panicked then none else q.abandon
  | .drop => if q.panicked then none else q.drop
  | .result t err => if q.panicked then none else q.result c t err
  | .notify => if q.panicked then none else q.notify c
  | .report => if q.panicked then none else q.report
  | .finish => if q.panicked then none else q.finish
  | .closeRetries => if q.panicked then none else q.closeRetries
  | .retry => if q.panicked then none else q.retry
  | .endRound => if q.panicked then none else q.endRound
  | .waitStart => if q.panicked then none else q.waitStart
  | .waitWake => if q.panicked then none else q.waitWake
  | .finishAdapter => if q.panicked then none else q.finishAdapterStep
  | .closeErrors => if q.panicked then none else q.closeErrors
  | .waitReturn => if q.panicked then none else q.waitReturn
  | .collectError => if q.panicked then none else q.collectError
  | .collectorExit => if q.panicked then none else q.collectorExit
  | .consume w => if q.panicked then none else q.consume w

/-- The states a queue reaches from `NewTransferQueue` through steps whose choices the
environment `ok` allows (what `api.Batch` answers, what the adapter reports). `parsed` is
what the configuration gives for `lfs.transfer.maxretries`. -/
inductive Reachable (c : Config) (ok : Queue → Act → Prop) : Queue → Prop
  | init (parsed : Except String (Option Int)) :
      Reachable c ok (Queue.init c (newRetryCounter parsed))
  | step {q q' : Queue} {a : Act} : Reachable c ok q → ok q a → Tq.step c q a = some q' →
      Reachable c ok q'

theorem Reachable.mono {c : Config} {P P' : Queue → Act → Prop} (hP : ∀ q a, P q a → P' q a)
    {q : Queue} (h : Reachable c P q) : Reachable c P' q := by
  induction h with
  | init p => exact .init p
  | step _ ha hs ih => exact ih.step (hP _ _ ha) hs

/-- Runs a list of actions in order, as long as the check `ok` passes each. -/
def run (c : Config) (ok : Queue → Act → Bool) : Queue → List Act → Option Queue
  | q, [] => some q
  | q, a :: as => if ok q a then (step c q a).bind (run c ok · as) else none

theorem Reachable.run {c : Config} {P : Queue → Act → Prop} {ok : Queue → Act → Bool}
    (hok : ∀ q a, ok q a = true → P q a) :
    ∀ {q q' : Queue} {as : List Act}, Reachable c P q → Tq.run c ok q as = some q' →
      Reachable c P q'
  | q, q', [], hq, h => by cases h; exact hq
  | q, q', a :: as, hq, h => by
    simp only [Tq.run] at h
    split at h
    · cases hs : Tq.step c q a with
      | none => simp [hs] at h
      | some q₁ =>
        simp only [hs, Option.bind_some] at h
        exact (hq.step (hok q a ‹_›) hs).run hok h
    · cases h

end GitLfs.Tq
