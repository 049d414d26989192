import Mathlib.Data.List.Sort

/-! # Transferables, batches and the retry counter

The data the batched transfer queue of `tq` works on: transferables keyed by their oid,
the objects of a batch API response, the errors the queue collects, and the per-oid retry
counter whose bound `newRetryCounter` forces to be at least one.
-/

namespace GitLfs.Tq

abbrev Oid := String

/-- A transferable, with the two attributes the queue itself reads. -/
structure Transferable where
  oid : Oid
  size : Int
  deriving DecidableEq, Repr

/-- The per-object error of a batch API response. -/
structure ObjectError where
  code : Int
  message : String
  deriving DecidableEq, Repr

/-- One object of a batch API response; `actions` lists the transfer kinds it carries a
link relation for. -/
structure ObjectResource where
  oid : Oid
  size : Int
  actions : List String
  error : Option ObjectError
  deriving DecidableEq, Repr

/-- `Rel`: whether the object has a link relation for the given kind. -/
def ObjectResource.rel (o : ObjectResource) (name : String) : Bool := o.actions.contains name

/-- An error value, with the classification `errors.IsRetriableError` reads. -/
structure Err where
  retriable : Bool
  message : String
  deriving DecidableEq, Repr

/-- The entries of `q.errors`, by the place that sent them on `q.errorc`. An object error is
wrapped with its oid (`errors.Wrapf(o.Error, "[%v] %v", ...)`). A failed transfer sends the
adapter's `res.Error` as it is: the oid of `transfer` is a ghost tag that records which
transfer the error came from, read only by the proofs, and not part of Go's error. -/
inductive QueueError
  | batch (e : Err)
  | object (oid : Oid) (e : ObjectError)
  | begin (e : Err)
  | transfer (oid : Oid) (e : Err)
  deriving DecidableEq, Repr

/-- The oid an error comes from, for the two kinds sent for one object. -/
def QueueError.oid? : QueueError → Option Oid
  | .object oid _ => some oid
  | .transfer oid _ => some oid
  | _ => none

inductive Direction
  | upload
  | download
  deriving DecidableEq, Repr

def transferKind : Direction → String
  | .download => "download"
  | .upload => "upload"

def defaultBatchSize : Nat := 100

def defaultMaxRetries : Int := 1

/-- `retryCounter`: the retry bound and the number of retries made per oid. The bound is
at least one, which `newRetryCounter` ensures. -/
structure RetryCounter where
  maxRetries : Int
  count : Oid → Nat
  one_le : 1 ≤ maxRetries

/-- The bound after `cfg.Unmarshal`, given what it makes of `lfs.transfer.maxretries`:
a parse error, no value, or a value. -/
def unmarshalMaxRetries : Except String (Option Int) → Int
  | .error _ => 1
  | .ok none => defaultMaxRetries
  | .ok (some v) => v

def newRetryCounter (parsed : Except String (Option Int)) : RetryCounter :=
  let m := unmarshalMaxRetries parsed
  if h : m < 1 then ⟨1, fun _ => 0, Int.le_refl 1⟩ else ⟨m, fun _ => 0, Int.not_lt.mp h⟩

namespace RetryCounter

variable (r : RetryCounter) (oid : Oid)

def increment : RetryCounter :=
  { r with count := Function.update r.count oid (r.count oid + 1) }

def countFor : Nat := r.count oid

/-- `CanRetry`: the count, and whether it is still below the bound. -/
def canRetry : Nat × Bool := (r.countFor oid, decide ((r.countFor oid : Int) < r.maxRetries))

@[simp] theorem increment_maxRetries : (r.increment oid).maxRetries = r.maxRetries := rfl

@[simp] theorem increment_count (x : Oid) :
    (r.increment oid).count x = r.count x + if oid = x then 1 else 0 := by
  by_cases h : oid = x <;> simp [increment, Function.update, h, eq_comm]

@[simp] theorem canRetry_snd : (r.canRetry oid).2 = decide ((r.count oid : Int) < r.maxRetries) :=
  rfl

end RetryCounter

@[simp] theorem newRetryCounter_count (parsed : Except String (Option Int)) (x : Oid) :
    (newRetryCounter parsed).count x = 0 := by
  simp only [newRetryCounter]; split <;> rfl

theorem newRetryCounter_maxRetries (parsed : Except String (Option Int)) :
    (newRetryCounter parsed).maxRetries = max 1 (unmarshalMaxRetries parsed) := by
  simp only [newRetryCounter]
  split <;> simp only <;> omega

abbrev Batch := List Transferable

/-- `IsFull`. -/
def Batch.isFull (b : Batch) (max : Nat) : Bool := decide (max ≤ b.length)

/-- `sort.Sort(sort.Reverse(batch))` under `Less` by size: the largest objects first. -/
def Batch.sortDesc (b : Batch) : Batch := b.insertionSort fun s t => t.size ≤ s.size

theorem Batch.sortDesc_perm (b : Batch) : List.Perm b.sortDesc b := List.perm_insertionSort _ b

theorem Batch.sortDesc_sorted (b : Batch) :
    b.sortDesc.Sorted fun s t => t.size ≤ s.size := by
  haveI : IsTotal Transferable fun s t => t.size ≤ s.size := ⟨fun s t => le_total t.size s.size⟩
  haveI : IsTrans Transferable fun s t => t.size ≤ s.size := ⟨fun _ _ _ h h' => h'.trans h⟩
  exact List.sorted_insertionSort _ b

/-- `canRetryObject`: an object is retried only below its retry bound and only for a
retriable error. -/
def canRetryObject (rc : RetryCounter) (oid : Oid) (err : Err) : Bool :=
  if !(rc.canRetry oid).2 then false else err.retriable

theorem canRetryObject_iff (rc : RetryCounter) (oid : Oid) (err : Err) :
    canRetryObject rc oid err = true ↔ (rc.count oid : Int) < rc.maxRetries ∧ err.retriable := by
  simp [canRetryObject]

end GitLfs.Tq
