import GitLfs.TransferQueue.Errors

/-! # Shutting the queue down

`Wait` closes `q.errorc` and the watchers once the wait counter is zero. Every send on
`q.errorc` but one comes before the `q.wait.Done()` of its oid. The exception is the error
of a failed `api.Batch` call: `enqueueAndCollectRetriesFor` closes out each object it cannot
retry and only then returns the error, which `collectBatches` sends afterwards.
-/

namespace GitLfs.Tq

/-- One `Add`, then `Wait`; `api.Batch` fails with an error that cannot be retried, and
`Wait` runs to its end between the `q.wait.Done()` of the object and the send of the error. -/
def batchErrorTrace : List Act :=
  let t : Transferable := ⟨"a", 1⟩
  [.add t, .send t, .receive, .waitStart, .receive, .dispatch, .negotiate (.error ⟨false, "x"⟩),
   .requeue, .requeue, .waitWake, .finishAdapter, .closeErrors, .collectorExit, .waitReturn]

def batchErrorRun : Queue :=
  let q₀ := Queue.init defaultConfig (newRetryCounter (.ok none))
  (run defaultConfig Contract.check q₀ batchErrorTrace).getD q₀

/-- The run is allowed by the response contract; `Wait` has returned with no error
collected, and the batch error `collectBatches` still holds goes on the closed
`q.errorc`: the send panics. -/
theorem batch_error_after_wait :
    Reachable defaultConfig Contract batchErrorRun ∧ batchErrorRun.waitPc = .returned ∧
      batchErrorRun.errors = [] ∧ batchErrorRun.collector = .forward true ⟨false, "x"⟩ [] ∧
      (step defaultConfig batchErrorRun .forward).map (·.panicked) = some true :=
  ⟨Reachable.run (fun _ _ => Contract.of_check) (.init (.ok none))
    (rfl : run defaultConfig Contract.check (Queue.init defaultConfig (newRetryCounter (.ok none)))
      batchErrorTrace = some batchErrorRun), by decide⟩

end GitLfs.Tq
