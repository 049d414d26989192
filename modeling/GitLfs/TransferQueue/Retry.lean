import GitLfs.TransferQueue.Errors

/-! # The retry budget

`canRetryObject` lets an object be retried while its count is below `MaxRetries`, and each
retry raises the count by one as the object is carried into the next batch. Counting the
batches an oid is in against its retry count shows that it is passed to `api.Batch` at most
`MaxRetries + 1` times, and handed to the adapter no more often than that.
-/

namespace GitLfs.Tq

/-- The objects the next `api.Batch` call will carry, or is about to carry: the batch
`collectBatches` fills or negotiates, and the next batch it collects. -/
def Collector.waiting : Collector → List Oid
  | .fill _ b => Tq.oids b
  | .negotiate _ b => Tq.oids b
  | .requeue _ _ _ next => Tq.oids next
  | .forward _ _ next => Tq.oids next
  | .collect _ next _ => Tq.oids next
  | _ => []

/-- The buffer of the `retries` channel. -/
def Collector.retrying : Collector → Batch
  | .collect _ _ r => r.retries
  | _ => []

/-- The objects of a successful response not yet passed to the adapter. -/
def Collector.toDispatch : Collector → List Oid
  | .scan _ objs tt => objs.map (·.oid) ++ Tq.oids tt
  | .skip _ x objs tt => x :: (objs.map (·.oid) ++ Tq.oids tt)
  | .begin _ pending => Tq.oids pending
  | _ => []

@[simp] theorem waiting_endRound (closing : Bool) (next : Batch) :
    (endRound closing next).waiting = oids next := by
  unfold endRound
  split
  · rename_i h
    simp only [Bool.and_eq_true, List.isEmpty_iff] at h
    simp [h.2, Collector.waiting]
  · rfl

@[simp] theorem retrying_endRound (closing : Bool) (next : Batch) :
    (endRound closing next).retrying = [] := by
  unfold endRound; split <;> rfl

@[simp] theorem toDispatch_endRound (closing : Bool) (next : Batch) :
    (endRound closing next).toDispatch = [] := by
  unfold endRound; split <;> rfl

theorem Collector.waiting_count_le (C : Collector) (x : Oid) : C.waiting.count x ≤ C.oids.count x := by
  cases C <;> simp [Collector.waiting]

theorem Collector.toDispatch_count_le (C : Collector) (x : Oid) :
    C.toDispatch.count x ≤ C.oids.count x := by
  cases C <;> simp [Collector.toDispatch]

namespace Queue

variable {c : Config} {q q' : Queue} {a : Act}

/-- Every oid passed to `api.Batch`, once per call. -/
def negotiated (q : Queue) : List Oid := (q.calls.map oids).flatten

def waiting (q : Queue) : List Oid := oids q.adding ++ oids q.incoming ++ q.collector.waiting

/-- The retry budget. An oid is negotiated once per retry, and once more for the round it
is in if that round has passed `api.Batch`: `held` counts it then, `waiting` does not. -/
structure Budget (q : Queue) : Prop where
  bound : ∀ x, (q.rc.count x : Int) ≤ q.rc.maxRetries
  retrying : ∀ t ∈ q.collector.retrying, (q.rc.count t.oid : Int) < q.rc.maxRetries
  calls : ∀ x, q.negotiated.count x + q.waiting.count x = q.rc.count x + q.held x
  dispatched : ∀ x, q.dispatched.count x + q.collector.toDispatch.count x ≤ q.negotiated.count x

theorem budget_init (c : Config) (parsed : Except String (Option Int)) :
    Budget (Queue.init c (newRetryCounter parsed)) where
  bound x := by have := (newRetryCounter parsed).one_le; simp only [Queue.init, newRetryCounter_count]; omega
  retrying _ h := by simp [Queue.init, Collector.retrying] at h
  calls x := by simp [Queue.init, negotiated, waiting, Collector.waiting, held, pipeline, terminal]
  dispatched x := by simp [Queue.init, negotiated, Collector.toDispatch]

theorem Budget.crash (hb : Budget q) : Budget q.crash := ⟨hb.1, hb.2, hb.3, hb.4⟩

theorem Budget.frame (hb : Budget q) (hm : Moves q q') (hrc : q'.rc = q.rc)
    (hc : q'.calls = q.calls) (hd : q'.dispatched = q.dispatched)
    (hw : ∀ x, q'.waiting.count x = q.waiting.count x)
    (hr : ∀ t ∈ q'.collector.retrying, (q.rc.count t.oid : Int) < q.rc.maxRetries)
    (ht : ∀ x, q'.collector.toDispatch.count x ≤ q.collector.toDispatch.count x) : Budget q' where
  bound := hrc ▸ hb.bound
  retrying := hrc ▸ hr
  calls x := by rw [negotiated, hc, hw, hrc, hm.held]; exact hb.calls x
  dispatched x := by
    have h₁ := hb.dispatched x
    have h₂ := ht x
    simp only [negotiated, hc, hd] at h₁ ⊢
    omega

theorem Budget.move {C : Collector} (hb : Budget q) (hm : Moves q { q with collector := C })
    (hw : ∀ x, C.waiting.count x = q.collector.waiting.count x)
    (hr : ∀ t ∈ C.retrying, (q.rc.count t.oid : Int) < q.rc.maxRetries)
    (ht : ∀ x, C.toDispatch.count x ≤ q.collector.toDispatch.count x) :
    Budget { q with collector := C } :=
  hb.frame hm rfl rfl rfl (fun x => by simp [waiting, hw x]) hr ht

theorem Budget.of_sendError {e : QueueError} {C : Collector} (hb : Budget q)
    (h : q.sendError e (fun q => { q with collector := C }) = some q') (hm : Moves q q')
    (hw : ∀ x, C.waiting.count x = q.collector.waiting.count x)
    (hr : ∀ t ∈ C.retrying, (q.rc.count t.oid : Int) < q.rc.maxRetries)
    (ht : ∀ x, C.toDispatch.count x ≤ q.collector.toDispatch.count x) : Budget q' := by
  rcases sendError_cases h with rfl | ⟨-, -, rfl⟩
  · exact hb.crash
  · exact hb.frame hm rfl rfl rfl (fun x => by simp [waiting, hw x]) hr ht

theorem Budget.of_done {y : Oid} {o : Outcome} {C : Collector} (hb : Budget q)
    (h : q.done y o (fun q => { q with collector := C }) = some q') (hm : Moves q q')
    (hw : ∀ x, C.waiting.count x = q.collector.waiting.count x)
    (hr : ∀ t ∈ C.retrying, (q.rc.count t.oid : Int) < q.rc.maxRetries)
    (ht : ∀ x, C.toDispatch.count x ≤ q.collector.toDispatch.count x) : Budget q' := by
  rcases done_cases h with rfl | ⟨-, rfl⟩
  · exact hb.crash
  · exact hb.frame hm rfl rfl rfl (fun x => by simp [waiting, hw x]) hr ht

/-! ### Each action keeps the budget -/

theorem Budget.add {t : Transferable} (hb : Budget q) (h : q.add t = some q') : Budget q' := by
  obtain ⟨-, ⟨-, rfl⟩ | ⟨-, rfl⟩⟩ := add_spec h
  · exact hb
  · refine ⟨hb.bound, hb.retrying, fun x => ?_, hb.dispatched⟩
    have := hb.calls x
    simp [waiting, held, pipeline, terminal, negotiated, List.count_cons] at this ⊢; omega

theorem Budget.send {t : Transferable} (hb : Budget q) (h : q.send c t = some q') :
    Budget q' := by
  have hm := send_moves h
  obtain ⟨ht, rfl | ⟨-, rfl⟩⟩ := send_spec h
  · exact hb.crash
  · refine hb.frame hm rfl rfl rfl (fun x => ?_) hb.retrying fun _ => le_rfl
    have := count_oids_erase ht x
    simp [waiting, List.count_cons] at this ⊢; omega

theorem Budget.receive (hb : Budget q) (h : q.receive c = some q') : Budget q' := by
  have hm := receive_moves h
  obtain ⟨batch, hc, -, ⟨t, rest, hi, rfl⟩ | ⟨-, -, rfl⟩⟩ := receive_spec h
  · refine hb.frame hm rfl rfl rfl (fun x => ?_) (by simp [Collector.retrying])
      (fun x => by simp [Collector.toDispatch, hc])
    simp [waiting, Collector.waiting, hc, hi, List.count_cons]; omega
  · exact hb.move hm (fun x => by simp [Collector.waiting, hc]) (by simp [Collector.retrying])
      (fun x => by simp [Collector.toDispatch, hc])

theorem Budget.dispatch (hb : Budget q) (h : q.dispatch c = some q') : Budget q' := by
  have hm := dispatch_moves h
  obtain ⟨closing, batch, hc, -, rfl⟩ := dispatch_spec h
  exact hb.move hm (fun x => by simp [Collector.waiting, hc]) (by simp [Collector.retrying])
    (fun x => by simp [Collector.toDispatch, hc])

theorem Budget.negotiate {r : Except Err (String × List ObjectResource)} (hb : Budget q)
    (hr : Contract q (.negotiate r)) (h : q.negotiate r = some q') : Budget q' := by
  have hm := negotiate_moves h fun name objs he => by subst he; exact hr
  obtain ⟨closing, batch, hc, ⟨e, -, rfl⟩ | ⟨name, objs, rfl, rfl⟩⟩ := negotiate_spec h
  · refine ⟨hb.bound, by simp [Collector.retrying], fun x => ?_, fun x => ?_⟩
    · have := hb.calls x
      rw [hm.held]
      simp [negotiated, waiting, Collector.waiting, hc] at this ⊢; omega
    · have := hb.dispatched x
      simp [negotiated, Collector.toDispatch, hc] at this ⊢; omega
  · obtain ⟨a, p, e, hu⟩ := q.useAdapter_eq name
    have hp : ∀ x, (objs.map (·.oid)).count x = (oids batch).count x := fun x => by
      simp only [Contract, Collector.negotiating, hc] at hr
      exact hr.count_eq x
    refine ⟨by simpa [hu] using hb.bound, by simp [Collector.retrying], fun x => ?_, fun x => ?_⟩
    · have := hb.calls x
      rw [hm.held]
      simp [negotiated, waiting, Collector.waiting, hc, hu] at this ⊢; omega
    · have h₁ := hb.dispatched x
      have h₂ := hp x
      simp [negotiated, Collector.toDispatch, hc, hu] at h₁ h₂ ⊢; omega

theorem Budget.requeue (hb : Budget q) (h : q.requeue = some q') : Budget q' := by
  have hm := requeue_moves h
  obtain ⟨closing, e, next, ⟨t, rest, hc, ⟨hr, rfl⟩ | ⟨-, hd⟩⟩ | ⟨hc, rfl⟩⟩ := requeue_spec h
  · have hlt := ((canRetryObject_iff _ _ _).mp hr).1
    refine ⟨fun x => ?_, by simp [Collector.retrying], fun x => ?_, fun x => ?_⟩
    · have := hb.bound x
      simp only [RetryCounter.increment_count, RetryCounter.increment_maxRetries]
      split
      · subst x; push_cast; omega
      · simpa using this
    · have := hb.calls x
      rw [hm.held]
      simp [negotiated, waiting, Collector.waiting, hc, List.count_cons] at this ⊢; omega
    · have := hb.dispatched x
      simp [negotiated, Collector.toDispatch, hc] at this ⊢; omega
  · exact hb.of_done hd hm (fun x => by simp [Collector.waiting, hc]) (by simp [Collector.retrying])
      (fun x => by simp [Collector.toDispatch, hc])
  · exact hb.move hm (fun x => by simp [Collector.waiting, hc]) (by simp [Collector.retrying])
      (fun x => by simp [Collector.toDispatch, hc])

theorem Budget.forward (hb : Budget q) (h : q.forward = some q') : Budget q' := by
  obtain ⟨closing, e, next, hc, hs⟩ := forward_spec h
  exact hb.of_sendError hs (forward_moves h) (fun x => by rw [waiting_endRound, hc]; rfl) (by simp)
    (fun x => by simp)

theorem Budget.scan (hb : Budget q) (h : q.scan c = some q') : Budget q' := by
  have hm := scan_moves h
  obtain ⟨closing, tt, ⟨objs, hc, rfl, rfl⟩ | ⟨o, objs, hc, ⟨e, -, hs⟩ | ⟨-, hd⟩ | ⟨t, ht, rfl⟩ | ⟨-, rfl⟩⟩⟩ :=
    scan_spec h
  · exact hb.move hm (fun x => by simp [Collector.waiting, hc]) (by simp [Collector.retrying])
      (fun x => by simp [Collector.toDispatch, hc])
  · exact hb.of_sendError hs hm (fun x => by simp [Collector.waiting, hc])
      (by simp [Collector.retrying]) (fun x => by simp [Collector.toDispatch, hc])
  · exact hb.of_done hd hm (fun x => by simp [Collector.waiting, hc])
      (by simp [Collector.retrying]) (fun x => by simp [Collector.toDispatch, hc, List.count_cons])
  · have := q.lookup_oid (dispose_transfer ht)
    exact hb.move hm (fun x => by simp [Collector.waiting, hc]) (by simp [Collector.retrying])
      (fun x => by simp [Collector.toDispatch, hc, this, List.count_cons]; omega)
  · exact hb.crash

theorem Budget.skip (hb : Budget q) (h : q.skip = some q') : Budget q' := by
  obtain ⟨closing, y, objs, tt, hc, hd⟩ := skip_spec h
  exact hb.of_done hd (skip_moves h) (fun x => by simp [Collector.waiting, hc])
    (by simp [Collector.retrying]) (fun x => by simp [Collector.toDispatch, hc, List.count_cons])

theorem Budget.spawn {q₀ : Queue} {closing : Bool} {pending : Batch} (hb : Budget q)
    (hm : Moves q (q₀.spawn c closing pending)) (hc : q.collector = .begin closing pending)
    (hrc : q₀.rc = q.rc) (hca : q₀.calls = q.calls) (hd : q₀.dispatched = q.dispatched)
    (ha : q₀.adding = q.adding) (hi : q₀.incoming = q.incoming) :
    Budget (q₀.spawn c closing pending) := by
  refine ⟨by simpa [Queue.spawn, hrc] using hb.bound, by simp [Queue.spawn, Collector.retrying],
    fun x => ?_, fun x => ?_⟩
  · have := hb.calls x
    rw [hm.held]
    simp [negotiated, waiting, Collector.waiting, Queue.spawn, hc, hrc, hca, ha, hi] at this ⊢
    exact this
  · have := hb.dispatched x
    simp only [negotiated, Collector.toDispatch, Queue.spawn, hc, hca, hd] at this ⊢
    split <;> simp only [oids_nil, List.count_nil, List.count_append] <;> omega

theorem Budget.begin {r : Option Err} (hb : Budget q) (h : q.begin c r = some q') :
    Budget q' := by
  have hm := begin_moves h
  obtain ⟨closing, pending, hc, ⟨-, rfl⟩ | ⟨-, -, rfl⟩ | ⟨-, -, -, rfl⟩ | ⟨e, -, -, -, rfl⟩⟩ :=
    begin_spec h
  · exact hb.spawn hm hc rfl rfl rfl rfl rfl
  · exact hb.crash
  · exact hb.spawn hm hc rfl rfl rfl rfl rfl
  · exact hb.move hm (fun x => by simp [Collector.waiting, hc]) (by simp [Collector.retrying])
      (fun x => by simp [Collector.toDispatch, hc])

theorem Budget.abandon (hb : Budget q) (h : q.abandon = some q') : Budget q' := by
  obtain ⟨closing, e, pending, hc, hs⟩ := abandon_spec h
  exact hb.of_sendError hs (abandon_moves h) (fun x => by simp [Collector.waiting, hc])
    (by simp [Collector.retrying]) (fun x => by simp [Collector.toDispatch, hc])

theorem Budget.drop (hb : Budget q) (h : q.drop = some q') : Budget q' := by
  have hm := drop_moves h
  obtain ⟨closing, ⟨t, rest, hc, hd⟩ | ⟨hc, rfl⟩⟩ := drop_spec h
  · exact hb.of_done hd hm (fun x => by simp [Collector.waiting, hc])
      (by simp [Collector.retrying]) (fun x => by simp [Collector.toDispatch, hc])
  · exact hb.move hm (fun x => by rw [waiting_endRound, hc]; rfl) (by simp) (by simp)

theorem Budget.result {t : Transferable} {err : Option Err} (hq : Accounted q) (hb : Budget q)
    (h : q.result c t err = some q') : Budget q' := by
  have hm := result_moves h fun _ => hq.mem_keys
  obtain ⟨closing, next, retries, pending, hc, -, -, hr⟩ := result_spec h
  have hw : ∀ r x, (Collector.collect closing next r).waiting.count x =
      q.collector.waiting.count x := fun _ x => by simp [Collector.waiting, hc]
  have hr₀ : ∀ u ∈ retries, (q.rc.count u.oid : Int) < q.rc.maxRetries :=
    fun u hu => hb.retrying u (by simp [Collector.retrying, hc, hu])
  have ht : ∀ r x, (Collector.collect closing next r).toDispatch.count x ≤
      q.collector.toDispatch.count x := fun _ x => by simp [Collector.toDispatch]
  rcases hr with ⟨-, rfl⟩ | ⟨e, -, ⟨hy, ⟨t', hl, rfl⟩ | ⟨-, rfl⟩⟩ | ⟨-, rfl⟩⟩
  · exact hb.move hm (hw _) (by simpa [Collector.retrying] using hr₀) (ht _)
  · have := q.lookup_oid hl
    refine hb.move hm (hw _) ?_ (ht _)
    simp only [Collector.retrying, List.mem_append, List.mem_singleton]
    rintro u (hu | rfl)
    · exact hr₀ u hu
    · exact this ▸ ((canRetryObject_iff _ _ _).mp hy).1
  · exact hb.move hm (hw _) (by simpa [Collector.retrying] using hr₀) (ht _)
  · exact hb.move hm (hw _) (by simpa [Collector.retrying] using hr₀) (ht _)

theorem Budget.notify (hb : Budget q) (h : q.notify c = some q') : Budget q' := by
  have hm := notify_moves h
  obtain ⟨closing, next, retries, pending, t, k, hc, ⟨-, rfl⟩ | ⟨w, -, -, rfl⟩ | ⟨w, -, -, -, rfl⟩⟩ :=
    notify_spec h
  · exact hb.move hm (fun x => by simp [Collector.waiting, hc])
      (fun u hu => hb.retrying u (by simpa [Collector.retrying, hc] using hu))
      (fun x => by simp [Collector.toDispatch, hc])
  · exact hb.crash
  · exact hb.frame hm rfl rfl rfl (fun x => by simp [waiting, Collector.waiting, setResults, hc])
      (fun u hu => hb.retrying u (by simpa [Collector.retrying, setResults, hc] using hu))
      (fun x => by simp [Collector.toDispatch, setResults, hc])

theorem Budget.report (hb : Budget q) (h : q.report = some q') : Budget q' := by
  obtain ⟨closing, next, retries, pending, t, e, d, hc, hs⟩ := report_spec h
  exact hb.of_sendError hs (report_moves h) (fun x => by simp [Collector.waiting, hc])
    (fun u hu => hb.retrying u (by simpa [Collector.retrying, hc] using hu))
    (fun x => by simp [Collector.toDispatch, hc])

theorem Budget.finish (hb : Budget q) (h : q.finish = some q') : Budget q' := by
  obtain ⟨closing, next, retries, pending, t, o, hc, hd⟩ := finish_spec h
  exact hb.of_done hd (finish_moves h) (fun x => by simp [Collector.waiting, hc])
    (fun u hu => hb.retrying u (by simpa [Collector.retrying, hc] using hu))
    (fun x => by simp [Collector.toDispatch, hc])

theorem Budget.closeRetries (hb : Budget q) (h : q.closeRetries = some q') : Budget q' := by
  obtain ⟨closing, next, retries, hc, rfl⟩ := closeRetries_spec h
  exact hb.move (closeRetries_moves h) (fun x => by simp [Collector.waiting, hc])
    (fun u hu => hb.retrying u (by simpa [Collector.retrying, hc] using hu))
    (fun x => by simp [Collector.toDispatch, hc])

theorem Budget.retry (hq : Accounted q) (hb : Budget q) (h : q.retry = some q') : Budget q' := by
  have hm := retry_moves h
  obtain ⟨closing, next, t, rest, f, hc, rfl⟩ := retry_spec h
  have hlt := hb.retrying t (by simp [Collector.retrying, hc])
  have hu : ∀ u ∈ rest, u.oid ≠ t.oid := fun u hu he => by
    have h₁ := hq.count_places t.oid
    have h₂ : 2 ≤ q.pipeline.count t.oid := by
      have := List.count_pos_iff.mpr (he ▸ mem_oids_of_mem hu : t.oid ∈ oids rest)
      simp [pipeline, hc, List.count_cons]; omega
    split at h₁ <;> omega
  refine ⟨fun x => ?_, fun u hu' => ?_, fun x => ?_, fun x => ?_⟩
  · have := hb.bound x
    simp only [setResults, RetryCounter.increment_count, RetryCounter.increment_maxRetries]
    split
    · subst x; push_cast; omega
    · simpa using this
  · have hu'' : u ∈ rest := by simpa [setResults, Collector.retrying] using hu'
    have := hb.retrying u (by simp [Collector.retrying, hc, hu''])
    simpa [setResults, Ne.symm (hu u hu'')] using this
  · have := hb.calls x
    rw [hm.held]
    simp [negotiated, waiting, Collector.waiting, setResults, hc, List.count_cons] at this ⊢; omega
  · have := hb.dispatched x
    simp [negotiated, Collector.toDispatch, setResults, hc] at this ⊢; omega

theorem Budget.endRound (hb : Budget q) (h : q.endRound = some q') : Budget q' := by
  obtain ⟨closing, next, hc, rfl⟩ := endRound_spec h
  exact hb.move (endRound_moves h) (fun x => by rw [waiting_endRound, hc]; rfl) (by simp)
    (by simp)

theorem step_budget (hq : Accounted q) (hb : Budget q) (hc : Contract q a)
    (h : step c q a = some q') : Budget q' := by
  have hf : ∀ {q' : Queue}, Moves q q' → q'.rc = q.rc → q'.calls = q.calls →
      q'.dispatched = q.dispatched → q'.adding = q.adding → q'.incoming = q.incoming →
      q'.collector = q.collector → Budget q' := fun hm h₁ h₂ h₃ h₄ h₅ h₆ =>
    hb.frame hm h₁ h₂ h₃ (by simp [waiting, h₄, h₅, h₆]) (by rw [h₆]; exact hb.retrying)
      (by simp [h₆])
  have hz : ∀ {q' : Queue}, q'.wait = q.wait → q'.outcomes = q.outcomes →
      q'.transferables = q.transferables → q'.adding = q.adding → q'.incoming = q.incoming →
      q'.collector = q.collector → Moves q q' := fun h₁ h₂ h₃ h₄ h₅ h₆ =>
    moves_of h₁ h₂ h₃ fun _ => by simp [pipeline, h₄, h₅, h₆]
  cases a <;> simp only [step] at h <;> split at h <;> first | cases h | skip
  case add.isFalse => exact hb.add h
  case send.isFalse => exact hb.send h
  case receive.isFalse => exact hb.receive h
  case dispatch.isFalse => exact hb.dispatch h
  case negotiate.isFalse => exact hb.negotiate hc h
  case requeue.isFalse => exact hb.requeue h
  case forward.isFalse => exact hb.forward h
  case scan.isFalse => exact hb.scan h
  case skip.isFalse => exact hb.skip h
  case begin.isFalse => exact hb.begin h
  case abandon.isFalse => exact hb.abandon h
  case drop.isFalse => exact hb.drop h
  case result.isFalse => exact hb.result hq h
  case notify.isFalse => exact hb.notify h
  case report.isFalse => exact hb.report h
  case finish.isFalse => exact hb.finish h
  case closeRetries.isFalse => exact hb.closeRetries h
  case retry.isFalse => exact hb.retry hq h
  case endRound.isFalse => exact hb.endRound h
  case waitStart.isFalse =>
    obtain ⟨-, -, rfl | rfl⟩ := waitStart_spec h
    exacts [hb.crash, hf (hz rfl rfl rfl rfl rfl rfl) rfl rfl rfl rfl rfl rfl]
  case waitWake.isFalse =>
    obtain ⟨-, -, rfl⟩ := waitWake_spec h
    exact hf (hz rfl rfl rfl rfl rfl rfl) rfl rfl rfl rfl rfl rfl
  case finishAdapter.isFalse =>
    obtain ⟨-, rfl⟩ := finishAdapterStep_spec h
    obtain ⟨a, p, e, hu⟩ := q.finishAdapter_eq
    rw [hu]
    exact hf (hz rfl rfl rfl rfl rfl rfl) rfl rfl rfl rfl rfl rfl
  case closeErrors.isFalse =>
    obtain ⟨-, rfl | ⟨-, rfl⟩⟩ := closeErrors_spec h
    exacts [hb.crash, hf (hz rfl rfl rfl rfl rfl rfl) rfl rfl rfl rfl rfl rfl]
  case waitReturn.isFalse =>
    obtain ⟨-, -, rfl⟩ := waitReturn_spec h
    exact hf (hz rfl rfl rfl rfl rfl rfl) rfl rfl rfl rfl rfl rfl
  case collectError.isFalse =>
    obtain ⟨e, -, rfl⟩ := collectError_spec h
    exact hf (hz rfl rfl rfl rfl rfl rfl) rfl rfl rfl rfl rfl rfl
  case collectorExit.isFalse =>
    obtain ⟨-, -, rfl⟩ := collectorExit_spec h
    exact hf (hz rfl rfl rfl rfl rfl rfl) rfl rfl rfl rfl rfl rfl
  case consume.isFalse =>
    obtain ⟨v, o, rest, -, -, rfl⟩ := consume_spec h
    exact hf (hz rfl rfl rfl rfl rfl rfl) rfl rfl rfl rfl rfl rfl

theorem reachable_budget (h : Reachable c Contract q) : Budget q := by
  induction h with
  | init p => exact budget_init c p
  | step hq hc hs ih => exact step_budget (reachable_accounted hq) ih hc hs

/-! ### Where the retry count is raised -/

/-- A step that raises the retry count of `x` by one: it carries an object of oid `x` into
the next batch, from a failed `api.Batch` call once `canRetryObject` allows it, or from
the `retries` channel, where `handleTransferResult` put it once `canRetryObject` allowed
it. -/
def Retried (x : Oid) (q q' : Queue) : Prop :=
  q'.rc = q.rc.increment x ∧
    ((∃ closing e t rest next, t.oid = x ∧ canRetryObject q.rc x e = true ∧
        q.collector = .requeue closing e (t :: rest) next ∧
        q'.collector = .requeue closing e rest (next ++ [t])) ∨
      (∃ closing next t rest f, t.oid = x ∧ q.collector = .collect closing next ⟨t :: rest, f⟩ ∧
        q'.collector = .collect closing (next ++ [t]) ⟨rest, f⟩))

theorem sendError_rc {e : QueueError} {k : Queue → Queue} (h : q.sendError e k = some q')
    (hk : ∀ q₀, (k q₀).rc = q₀.rc) : q'.rc = q.rc := by
  rcases sendError_cases h with rfl | ⟨-, -, rfl⟩
  · rfl
  · exact hk _

theorem done_rc {y : Oid} {o : Outcome} {k : Queue → Queue} (h : q.done y o k = some q')
    (hk : ∀ q₀, (k q₀).rc = q₀.rc) : q'.rc = q.rc := by
  rcases done_cases h with rfl | ⟨-, rfl⟩
  · rfl
  · exact hk _

theorem step_rc (h : step c q a = some q') : q'.rc = q.rc ∨ ∃ x, Retried x q q' := by
  cases a <;> simp only [step] at h <;> split at h <;> first | cases h | skip
  case requeue.isFalse =>
    obtain ⟨closing, e, next, ⟨t, rest, hc, ⟨hr, rfl⟩ | ⟨-, hd⟩⟩ | ⟨hc, rfl⟩⟩ := requeue_spec h
    · exact .inr ⟨t.oid, rfl, .inl ⟨closing, e, t, rest, next, rfl, hr, hc, rfl⟩⟩
    · exact .inl (done_rc hd fun _ => rfl)
    · exact .inl rfl
  case retry.isFalse =>
    obtain ⟨closing, next, t, rest, f, hc, rfl⟩ := retry_spec h
    exact .inr ⟨t.oid, rfl, .inr ⟨closing, next, t, rest, f, rfl, hc, rfl⟩⟩
  all_goals left
  case add.isFalse => obtain ⟨-, ⟨-, rfl⟩ | ⟨-, rfl⟩⟩ := add_spec h <;> rfl
  case send.isFalse => obtain ⟨-, rfl | ⟨-, rfl⟩⟩ := send_spec h <;> rfl
  case receive.isFalse => obtain ⟨_, -, -, ⟨_, _, -, rfl⟩ | ⟨-, -, rfl⟩⟩ := receive_spec h <;> rfl
  case dispatch.isFalse => obtain ⟨_, _, -, -, rfl⟩ := dispatch_spec h; rfl
  case negotiate.isFalse =>
    obtain ⟨_, _, -, ⟨_, -, rfl⟩ | ⟨name, _, -, rfl⟩⟩ := negotiate_spec h
    · rfl
    · obtain ⟨_, _, _, hu⟩ := q.useAdapter_eq name
      simp [hu]
  case forward.isFalse =>
    obtain ⟨_, _, _, -, hs⟩ := forward_spec h
    exact sendError_rc hs fun _ => rfl
  case scan.isFalse =>
    obtain ⟨_, _, ⟨_, -, -, rfl⟩ | ⟨_, _, -, ⟨_, -, hs⟩ | ⟨-, hd⟩ | ⟨_, -, rfl⟩ | ⟨-, rfl⟩⟩⟩ :=
      scan_spec h
    · rfl
    · exact sendError_rc hs fun _ => rfl
    · exact done_rc hd fun _ => rfl
    · rfl
    · rfl
  case skip.isFalse =>
    obtain ⟨_, _, _, _, -, hd⟩ := skip_spec h
    exact done_rc hd fun _ => rfl
  case begin.isFalse =>
    obtain ⟨_, _, -, ⟨-, rfl⟩ | ⟨-, -, rfl⟩ | ⟨-, -, -, rfl⟩ | ⟨_, -, -, -, rfl⟩⟩ := begin_spec h <;> rfl
  case abandon.isFalse =>
    obtain ⟨_, _, _, -, hs⟩ := abandon_spec h
    exact sendError_rc hs fun _ => rfl
  case drop.isFalse =>
    obtain ⟨_, ⟨_, _, -, hd⟩ | ⟨-, rfl⟩⟩ := drop_spec h
    · exact done_rc hd fun _ => rfl
    · rfl
  case result.isFalse =>
    obtain ⟨_, _, _, _, -, -, -, ⟨-, rfl⟩ | ⟨_, -, ⟨-, ⟨_, -, rfl⟩ | ⟨-, rfl⟩⟩ | ⟨-, rfl⟩⟩⟩ :=
      result_spec h <;> rfl
  case notify.isFalse =>
    obtain ⟨_, _, _, _, _, _, -, ⟨-, rfl⟩ | ⟨_, -, -, rfl⟩ | ⟨_, -, -, -, rfl⟩⟩ := notify_spec h <;> rfl
  case report.isFalse =>
    obtain ⟨_, _, _, _, _, _, _, -, hs⟩ := report_spec h
    exact sendError_rc hs fun _ => rfl
  case finish.isFalse =>
    obtain ⟨_, _, _, _, _, _, -, hd⟩ := finish_spec h
    exact done_rc hd fun _ => rfl
  case closeRetries.isFalse => obtain ⟨_, _, _, -, rfl⟩ := closeRetries_spec h; rfl
  case endRound.isFalse => obtain ⟨_, _, -, rfl⟩ := endRound_spec h; rfl
  case waitStart.isFalse => obtain ⟨-, -, rfl | rfl⟩ := waitStart_spec h <;> rfl
  case waitWake.isFalse => obtain ⟨-, -, rfl⟩ := waitWake_spec h; rfl
  case finishAdapter.isFalse =>
    obtain ⟨-, rfl⟩ := finishAdapterStep_spec h
    obtain ⟨_, _, _, hu⟩ := q.finishAdapter_eq
    simp [hu]
  case closeErrors.isFalse => obtain ⟨-, rfl | ⟨-, rfl⟩⟩ := closeErrors_spec h <;> rfl
  case waitReturn.isFalse => obtain ⟨-, -, rfl⟩ := waitReturn_spec h; rfl
  case collectError.isFalse => obtain ⟨_, -, rfl⟩ := collectError_spec h; rfl
  case collectorExit.isFalse => obtain ⟨-, -, rfl⟩ := collectorExit_spec h; rfl
  case consume.isFalse => obtain ⟨_, _, _, -, -, rfl⟩ := consume_spec h; rfl

end Queue

end GitLfs.Tq
