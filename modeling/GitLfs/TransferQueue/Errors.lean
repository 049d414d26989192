import GitLfs.TransferQueue.Accounting

/-! # What `Errors()` holds

Every error sent on `q.errorc` for an object is sent just before the `q.wait.Done()` of that
object, and `handleTransferResult` sends one only for a transfer that is not retried. So each
object or transfer error comes from an oid closed out with a failure, one error per such oid.
A failed `api.Batch` call and a failed `Begin` leave an error of their own.
-/

namespace GitLfs.Tq

/-- The failures that are reported on `q.errorc`: an object error of the response and a
transfer error that is not retried. -/
def Outcome.reported : Outcome → Bool
  | .batchFailed => false
  | .objectFailed => true
  | .skipped => false
  | .beginFailed => false
  | .succeeded => false
  | .transferFailed => true

attribute [simp] Outcome.reported.eq_1 Outcome.reported.eq_2 Outcome.reported.eq_3
  Outcome.reported.eq_4 Outcome.reported.eq_5 Outcome.reported.eq_6

/-- The oid whose error has been sent and whose `q.wait.Done()` has not yet run. -/
def Handling.failing : Handling → List Oid
  | .finish t o => if o.reported then [t.oid] else []
  | _ => []

def Feeder.failing : Feeder → List Oid
  | .running _ h => h.failing
  | .closed => []

def Collector.failing : Collector → List Oid
  | .skip _ x _ _ => [x]
  | .collect _ _ r => r.feeder.failing
  | _ => []

/-- A transfer error `handleTransferResult` is about to send is followed by
`q.wait.Done()`: the branch for a retriable error of an unknown oid is never taken. -/
def Feeder.reportsDone : Feeder → Bool
  | .running _ (.report _ _ d) => d
  | _ => true

def Collector.reportsDone : Collector → Bool
  | .collect _ _ r => r.feeder.reportsDone
  | _ => true

theorem Handling.failing_subset {h : Handling} {x : Oid} (hx : x ∈ h.failing) : x ∈ h.oids := by
  cases h <;> simp_all [Handling.failing]

theorem Collector.failing_subset {C : Collector} {x : Oid} (hx : x ∈ C.failing) : x ∈ C.oids := by
  rcases C with _ | _ | _ | _ | _ | _ | _ | _ | _ | ⟨_, _, _, _ | ⟨_, h⟩⟩ | _ <;>
    simp only [Collector.failing, Feeder.failing, List.not_mem_nil, List.mem_singleton] at hx
  · simp [hx]
  · simp [Handling.failing_subset hx]

namespace Queue

variable {c : Config} {q q' : Queue} {a : Act}

/-- The oids the errors collected, or held by the error collector, are about. -/
def errorOids (q : Queue) : List Oid := (q.errors ++ q.holding.toList).filterMap QueueError.oid?

/-- The oids closed out with a failure that is reported. -/
def failed (q : Queue) : List Oid := (q.outcomes.filter (·.2.reported)).map (·.1)

structure Reported (q : Queue) : Prop where
  oids : ∀ x, q.errorOids.count x = q.failed.count x + q.collector.failing.count x
  done : q.collector.reportsDone = true
  closed : q.errorsDone = true → q.errorcClosed = true ∧ q.holding = none
  returned : q.waitPc = .returned → q.errorsDone = true

theorem reported_init (c : Config) (rc : RetryCounter) : Reported (Queue.init c rc) :=
  ⟨fun _ => rfl, rfl, nofun, nofun⟩

theorem Reported.crash (hr : Reported q) : Reported q.crash := ⟨hr.1, hr.2, hr.3, hr.4⟩

theorem Reported.frame (hr : Reported q) (hw : q'.waitPc = .returned → q.waitPc = .returned)
    (he : q'.errors = q.errors)
    (hh : q'.holding = q.holding) (ho : q'.outcomes = q.outcomes)
    (hd : q'.errorsDone = q.errorsDone) (hc : q'.errorcClosed = q.errorcClosed)
    (hf : q'.collector.failing = q.collector.failing)
    (hp : q'.collector.reportsDone = q.collector.reportsDone) : Reported q' where
  oids x := by simpa only [errorOids, failed, he, hh, ho, hf] using hr.oids x
  done := hp ▸ hr.done
  closed h := by rw [hc, hh]; exact hr.closed (hd ▸ h)
  returned h := hd ▸ hr.returned (hw h)

theorem Reported.of_sendError {e : QueueError} {C : Collector} (hr : Reported q)
    (h : q.sendError e (fun q => { q with collector := C }) = some q')
    (hf : ∀ x, e.oid?.toList.count x + q.collector.failing.count x = C.failing.count x)
    (hp : C.reportsDone = true) : Reported q' := by
  rcases sendError_cases h with rfl | ⟨he, hh, rfl⟩
  · exact hr.crash
  · refine ⟨fun x => ?_, hp, fun hd => absurd (hr.closed hd).1 (by simp [he]), hr.returned⟩
    have h₁ := hr.oids x
    have h₂ := hf x
    have he : [e].filterMap QueueError.oid? = e.oid?.toList := by cases h : e.oid? <;> simp [h]
    simp only [errorOids, failed, hh, Option.toList_some, Option.toList_none, List.append_nil,
      List.filterMap_append, List.count_append, he] at h₁ ⊢
    omega

theorem Reported.of_done {y : Oid} {o : Outcome} {C : Collector} (hr : Reported q)
    (h : q.done y o (fun q => { q with collector := C }) = some q')
    (hf : ∀ x, q.collector.failing.count x = C.failing.count x + if o.reported ∧ y = x then 1 else 0)
    (hp : C.reportsDone = true) : Reported q' := by
  rcases done_cases h with rfl | ⟨-, rfl⟩
  · exact hr.crash
  · refine ⟨fun x => ?_, hp, hr.closed, hr.returned⟩
    have := hr.oids x
    have := hf x
    by_cases ho : o.reported <;> by_cases hy : y = x <;>
      simp_all [errorOids, failed, List.filter_append, List.count_cons]; omega

/-! ### Each action keeps the error ledger -/

theorem Reported.add {t : Transferable} (hr : Reported q) (h : q.add t = some q') :
    Reported q' := by
  obtain ⟨-, ⟨-, rfl⟩ | ⟨-, rfl⟩⟩ := add_spec h
  · exact hr
  · exact hr.frame id rfl rfl rfl rfl rfl rfl rfl

theorem Reported.send {t : Transferable} (hr : Reported q) (h : q.send c t = some q') :
    Reported q' := by
  obtain ⟨-, rfl | ⟨-, rfl⟩⟩ := send_spec h
  · exact hr.crash
  · exact hr.frame id rfl rfl rfl rfl rfl rfl rfl

theorem Reported.receive (hr : Reported q) (h : q.receive c = some q') : Reported q' := by
  obtain ⟨batch, hc, -, ⟨t, rest, -, rfl⟩ | ⟨-, -, rfl⟩⟩ := receive_spec h <;>
    exact hr.frame id rfl rfl rfl rfl rfl (by simp [Collector.failing, hc])
      (by simp [Collector.reportsDone, hc])

theorem Reported.dispatch (hr : Reported q) (h : q.dispatch c = some q') : Reported q' := by
  obtain ⟨closing, batch, hc, -, rfl⟩ := dispatch_spec h
  exact hr.frame id rfl rfl rfl rfl rfl (by simp [Collector.failing, hc])
    (by simp [Collector.reportsDone, hc])

theorem Reported.negotiate {r : Except Err (String × List ObjectResource)} (hr : Reported q)
    (h : q.negotiate r = some q') : Reported q' := by
  obtain ⟨closing, batch, hc, ⟨e, -, rfl⟩ | ⟨name, objs, -, rfl⟩⟩ := negotiate_spec h
  · exact hr.frame id rfl rfl rfl rfl rfl (by simp [Collector.failing, hc])
      (by simp [Collector.reportsDone, hc])
  · obtain ⟨a, p, e, hu⟩ := q.useAdapter_eq name
    exact hr.frame (by simp [hu]) (by simp [hu]) (by simp [hu]) (by simp [hu]) (by simp [hu])
      (by simp [hu]) (by simp [Collector.failing, hc]) (by simp [Collector.reportsDone, hc])

theorem Reported.requeue (hr : Reported q) (h : q.requeue = some q') : Reported q' := by
  obtain ⟨closing, e, next, ⟨t, rest, hc, ⟨-, rfl⟩ | ⟨-, hd⟩⟩ | ⟨hc, rfl⟩⟩ := requeue_spec h
  · exact hr.frame id rfl rfl rfl rfl rfl (by simp [Collector.failing, hc])
      (by simp [Collector.reportsDone, hc])
  · exact hr.of_done hd (fun x => by simp [Collector.failing, Outcome.reported, hc]) rfl
  · exact hr.frame id rfl rfl rfl rfl rfl (by simp [Collector.failing, hc])
      (by simp [Collector.reportsDone, hc])

theorem Reported.forward (hr : Reported q) (h : q.forward = some q') : Reported q' := by
  obtain ⟨closing, e, next, hc, hs⟩ := forward_spec h
  refine hr.of_sendError hs (fun x => ?_) ?_ <;> unfold Tq.endRound <;> split <;>
    simp [Collector.failing, Collector.reportsDone, QueueError.oid?, hc]

theorem Reported.scan (hr : Reported q) (h : q.scan c = some q') : Reported q' := by
  obtain ⟨closing, tt, ⟨objs, hc, -, rfl⟩ | ⟨o, objs, hc, ⟨e, -, hs⟩ | ⟨-, hd⟩ | ⟨t, -, rfl⟩ | ⟨-, rfl⟩⟩⟩ :=
    scan_spec h
  · exact hr.frame id rfl rfl rfl rfl rfl (by simp [Collector.failing, hc])
      (by simp [Collector.reportsDone, hc])
  · exact hr.of_sendError hs (fun x => by simp [Collector.failing, QueueError.oid?, hc]) rfl
  · exact hr.of_done hd (fun x => by simp [Collector.failing, Outcome.reported, hc]) rfl
  · exact hr.frame id rfl rfl rfl rfl rfl (by simp [Collector.failing, hc])
      (by simp [Collector.reportsDone, hc])
  · exact hr.crash

theorem Reported.skip (hr : Reported q) (h : q.skip = some q') : Reported q' := by
  obtain ⟨closing, y, objs, tt, hc, hd⟩ := skip_spec h
  exact hr.of_done hd (fun x => by by_cases hy : y = x <;> simp [Collector.failing,
    Outcome.reported, List.count_cons, hc, hy]) rfl

theorem Reported.begin {r : Option Err} (hr : Reported q) (h : q.begin c r = some q') :
    Reported q' := by
  obtain ⟨closing, pending, hc, ⟨-, rfl⟩ | ⟨-, -, rfl⟩ | ⟨-, -, -, rfl⟩ | ⟨e, -, -, -, rfl⟩⟩ :=
    begin_spec h
  · exact hr.frame id rfl rfl rfl rfl rfl
      (by simp [Collector.failing, Feeder.failing, Handling.failing, hc, spawn])
      (by simp [Collector.reportsDone, Feeder.reportsDone, hc, spawn])
  · exact hr.crash
  · exact hr.frame id rfl rfl rfl rfl rfl
      (by simp [Collector.failing, Feeder.failing, Handling.failing, hc, spawn])
      (by simp [Collector.reportsDone, Feeder.reportsDone, hc, spawn])
  · exact hr.frame id rfl rfl rfl rfl rfl (by simp [Collector.failing, hc])
      (by simp [Collector.reportsDone, hc])

theorem Reported.abandon (hr : Reported q) (h : q.abandon = some q') : Reported q' := by
  obtain ⟨closing, e, pending, hc, hs⟩ := abandon_spec h
  exact hr.of_sendError hs (fun x => by simp [Collector.failing, QueueError.oid?, hc]) rfl

theorem Reported.drop (hr : Reported q) (h : q.drop = some q') : Reported q' := by
  obtain ⟨closing, ⟨t, rest, hc, hd⟩ | ⟨hc, rfl⟩⟩ := drop_spec h
  · exact hr.of_done hd (fun x => by simp [Collector.failing, Outcome.reported, hc]) rfl
  · refine hr.frame id rfl rfl rfl rfl rfl ?_ ?_ <;> unfold Tq.endRound <;> split <;>
      simp [Collector.failing, Collector.reportsDone, hc]

theorem Reported.result {t : Transferable} {err : Option Err} (hq : Accounted q)
    (hr : Reported q) (h : q.result c t err = some q') : Reported q' := by
  obtain ⟨closing, next, retries, pending, hc, hm, -, hres⟩ := result_spec h
  have hl : (q.lookup t.oid).isSome :=
    q.lookup_isSome (hq.mem_keys (by simp [pipeline, hc, mem_oids_of_mem hm]))
  rcases hres with ⟨-, rfl⟩ | ⟨e, -, ⟨-, ⟨t', -, rfl⟩ | ⟨hn, rfl⟩⟩ | ⟨-, rfl⟩⟩
  · exact hr.frame id rfl rfl rfl rfl rfl
      (by simp [Collector.failing, Feeder.failing, Handling.failing, hc, setResults])
      (by simp [Collector.reportsDone, Feeder.reportsDone, hc, setResults])
  · exact hr.frame id rfl rfl rfl rfl rfl
      (by simp [Collector.failing, Feeder.failing, Handling.failing, hc, setResults])
      (by simp [Collector.reportsDone, Feeder.reportsDone, hc, setResults])
  · simp [hn] at hl
  · exact hr.frame id rfl rfl rfl rfl rfl
      (by simp [Collector.failing, Feeder.failing, Handling.failing, hc, setResults])
      (by simp [Collector.reportsDone, Feeder.reportsDone, hc, setResults])

theorem Reported.notify (hr : Reported q) (h : q.notify c = some q') : Reported q' := by
  obtain ⟨closing, next, retries, pending, t, k, hc, ⟨-, rfl⟩ | ⟨w, -, -, rfl⟩ | ⟨w, -, -, -, rfl⟩⟩ :=
    notify_spec h
  · exact hr.frame id rfl rfl rfl rfl rfl
      (by simp [Collector.failing, Feeder.failing, Handling.failing, hc, setResults])
      (by simp [Collector.reportsDone, Feeder.reportsDone, hc, setResults])
  · exact hr.crash
  · exact hr.frame id rfl rfl rfl rfl rfl
      (by simp [Collector.failing, Feeder.failing, Handling.failing, hc, setResults])
      (by simp [Collector.reportsDone, Feeder.reportsDone, hc, setResults])

theorem Reported.report (hr : Reported q) (h : q.report = some q') : Reported q' := by
  obtain ⟨closing, next, retries, pending, t, e, d, hc, hs⟩ := report_spec h
  have hd : d = true := by simpa [Collector.reportsDone, Feeder.reportsDone, hc] using hr.done
  subst hd
  exact hr.of_sendError hs (fun x => by simp [Collector.failing, Feeder.failing,
    Handling.failing, QueueError.oid?, hc, List.count_cons]) rfl

theorem Reported.finish (hr : Reported q) (h : q.finish = some q') : Reported q' := by
  obtain ⟨closing, next, retries, pending, t, o, hc, hd⟩ := finish_spec h
  exact hr.of_done hd (fun x => by
    cases o <;> simp [Collector.failing, Feeder.failing, Handling.failing, Outcome.reported, hc,
      List.count_cons]) rfl

theorem Reported.closeRetries (hr : Reported q) (h : q.closeRetries = some q') :
    Reported q' := by
  obtain ⟨closing, next, retries, hc, rfl⟩ := closeRetries_spec h
  exact hr.frame id rfl rfl rfl rfl rfl
    (by simp [Collector.failing, Feeder.failing, Handling.failing, hc, setResults])
    (by simp [Collector.reportsDone, Feeder.reportsDone, hc, setResults])

theorem Reported.retry (hr : Reported q) (h : q.retry = some q') : Reported q' := by
  obtain ⟨closing, next, t, rest, f, hc, rfl⟩ := retry_spec h
  exact hr.frame id rfl rfl rfl rfl rfl (by simp [Collector.failing, hc, setResults])
    (by simp [Collector.reportsDone, hc, setResults])

theorem Reported.endRound (hr : Reported q) (h : q.endRound = some q') : Reported q' := by
  obtain ⟨closing, next, hc, rfl⟩ := endRound_spec h
  refine hr.frame id rfl rfl rfl rfl rfl ?_ ?_ <;> unfold Tq.endRound <;> split <;>
    simp [Collector.failing, Collector.reportsDone, Feeder.failing, Feeder.reportsDone, hc]

theorem Reported.closeErrors (hr : Reported q) (h : q.closeErrors = some q') :
    Reported q' := by
  obtain ⟨-, rfl | ⟨he, rfl⟩⟩ := closeErrors_spec h
  · exact hr.crash
  · exact ⟨hr.oids, hr.done, fun hd => absurd (hr.closed hd).1 (by simp [he]), nofun⟩

theorem Reported.collectError (hr : Reported q) (h : q.collectError = some q') :
    Reported q' := by
  obtain ⟨e, he, rfl⟩ := collectError_spec h
  exact ⟨fun x => by simpa [errorOids, he] using hr.oids x, hr.done,
    fun hd => absurd (hr.closed hd).2 (by simp [he]), hr.returned⟩

theorem Reported.collectorExit (hr : Reported q) (h : q.collectorExit = some q') :
    Reported q' := by
  obtain ⟨hc, hh, rfl⟩ := collectorExit_spec h
  exact ⟨hr.oids, hr.done, fun _ => ⟨hc, hh⟩, fun _ => rfl⟩

theorem step_reported (hq : Accounted q) (hr : Reported q) (h : step c q a = some q') :
    Reported q' := by
  cases a <;> simp only [step] at h <;> split at h <;> first | cases h | skip
  case add.isFalse => exact hr.add h
  case send.isFalse => exact hr.send h
  case receive.isFalse => exact hr.receive h
  case dispatch.isFalse => exact hr.dispatch h
  case negotiate.isFalse => exact hr.negotiate h
  case requeue.isFalse => exact hr.requeue h
  case forward.isFalse => exact hr.forward h
  case scan.isFalse => exact hr.scan h
  case skip.isFalse => exact hr.skip h
  case begin.isFalse => exact hr.begin h
  case abandon.isFalse => exact hr.abandon h
  case drop.isFalse => exact hr.drop h
  case result.isFalse => exact hr.result hq h
  case notify.isFalse => exact hr.notify h
  case report.isFalse => exact hr.report h
  case finish.isFalse => exact hr.finish h
  case closeRetries.isFalse => exact hr.closeRetries h
  case retry.isFalse => exact hr.retry h
  case endRound.isFalse => exact hr.endRound h
  case waitStart.isFalse =>
    obtain ⟨-, -, rfl | rfl⟩ := waitStart_spec h
    exacts [hr.crash, hr.frame nofun rfl rfl rfl rfl rfl rfl rfl]
  case waitWake.isFalse =>
    obtain ⟨-, -, rfl⟩ := waitWake_spec h
    exact hr.frame nofun rfl rfl rfl rfl rfl rfl rfl
  case finishAdapter.isFalse =>
    obtain ⟨-, rfl⟩ := finishAdapterStep_spec h
    obtain ⟨a, p, e, hu⟩ := q.finishAdapter_eq
    rw [hu]
    exact hr.frame nofun rfl rfl rfl rfl rfl rfl rfl
  case closeErrors.isFalse => exact hr.closeErrors h
  case waitReturn.isFalse =>
    obtain ⟨-, hd, rfl⟩ := waitReturn_spec h
    exact ⟨hr.oids, hr.done, hr.closed, fun _ => hd⟩
  case collectError.isFalse => exact hr.collectError h
  case collectorExit.isFalse => exact hr.collectorExit h
  case consume.isFalse =>
    obtain ⟨v, o, rest, -, -, rfl⟩ := consume_spec h
    exact hr.frame id rfl rfl rfl rfl rfl rfl rfl

theorem reachable_reported (h : Reachable c Contract q) : Reported q := by
  induction h with
  | init p => exact reported_init c _
  | step hq _ hs ih => exact step_reported (reachable_accounted hq) ih hs

/-! ### After `Wait` -/

theorem failed_sublist (q : Queue) : q.failed.Sublist q.terminal :=
  (List.filter_sublist _).map _

theorem errorOids_after_wait (h : Reachable c Contract q) (hw : q.waitPc = .returned) (x : Oid) :
    (q.errors.filterMap QueueError.oid?).count x = q.failed.count x ∧ q.failed.count x ≤ 1 := by
  have hq := reachable_accounted h
  have hr := reachable_reported h
  have hh := (hr.closed (hr.returned hw)).2
  have hf : q.collector.failing = [] := by
    have hn := hq.pipeline_nil (by simp [hw])
    exact List.eq_nil_iff_forall_not_mem.mpr fun y hy => by
      simpa [(List.append_eq_nil.mp hn).2] using Collector.failing_subset hy
  refine ⟨by simpa [errorOids, hh, hf] using hr.oids x, ?_⟩
  have h₁ := (failed_sublist q).count_le x
  have h₂ := hq.count_places x
  split at h₂ <;> omega

/-- One `Add`, then `Wait`; the first `api.Batch` call fails with a retriable error, the
retried batch succeeds and so does the transfer. -/
def retriedBatchTrace : List Act :=
  let t : Transferable := ⟨"a", 1⟩
  [.add t, .send t, .receive, .waitStart, .receive, .dispatch,
   .negotiate (.error ⟨true, "x"⟩), .requeue, .requeue, .forward, .collectError, .dispatch,
   .negotiate (.ok ("basic", [⟨"a", 1, ["upload"], none⟩])), .scan, .scan, .begin none,
   .result t none, .notify, .finish, .closeRetries, .endRound, .waitWake, .finishAdapter,
   .closeErrors, .collectorExit, .waitReturn]

def retriedBatchRun : Queue :=
  let q₀ := Queue.init defaultConfig (newRetryCounter (.ok none))
  (run defaultConfig Contract.check q₀ retriedBatchTrace).getD q₀

end Queue

end GitLfs.Tq
