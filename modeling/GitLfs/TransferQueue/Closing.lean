import GitLfs.TransferQueue.Response

/-! # The rounds after the close

Once `collectBatches` has read the close of `q.incoming`, each further round negotiates only
what the round before carried over. An object is carried into the batch of the `k`-th call
to `api.Batch` after the close only with a retry count of at least `k`, and is carried on
only while `canRetryObject` holds, that is while its count is below `MaxRetries`. So the loop
calls `api.Batch` at most `MaxRetries + 1` times from the round that read the close on, and
after the last of these calls it has no batch to fill and nothing to carry: the round ends
with the loop's exit.
-/

namespace GitLfs.Tq

/-- The environment: every object of a successful `api.Batch` response carries an oid of
the batch that was sent. An oid may be left out of the response or answered twice. -/
def Answers (q : Queue) : Act → Prop
  | .negotiate (.ok (_, objs)) => ∀ o ∈ objs, o.oid ∈ oids q.collector.negotiating
  | _ => True

/-- `Answers`, decided. -/
def Answers.check (q : Queue) : Act → Bool
  | .negotiate (.ok (_, objs)) => objs.all fun o => decide (o.oid ∈ oids q.collector.negotiating)
  | _ => true

theorem Answers.of_check {q : Queue} {a : Act} (h : Answers.check q a = true) : Answers q a := by
  unfold Answers.check at h
  unfold Answers
  split at h <;> simp_all

/-- The oids a round that has called `api.Batch` may still carry into the next batch: the
failed batch's objects not yet requeued, the response's objects not yet scanned and the
transfers collected from it, and the transfers the adapter has not answered. -/
def Collector.candidates : Collector → List Oid
  | .requeue _ _ rest _ => Tq.oids rest
  | .scan _ objs tt | .skip _ _ objs tt => objs.map (·.oid) ++ Tq.oids tt
  | .begin _ pending => Tq.oids pending
  | .collect _ _ ⟨_, .running pending _⟩ => Tq.oids pending
  | _ => []

/-- The round has a call to `api.Batch` to make, or an object to carry into a next one. -/
def Collector.owing (C : Collector) : Prop :=
  C.filling = true ∨ C.waiting ≠ [] ∨ C.retrying ≠ []

@[simp] theorem candidates_endRound (closing : Bool) (next : Batch) :
    (endRound closing next).candidates = [] := by
  unfold endRound; split <;> rfl

theorem closing_endRound (next : Batch) : (endRound true next).closing = true := by
  unfold endRound; split <;> rfl

theorem owing_endRound {next : Batch} (h : (endRound true next).owing) : next ≠ [] := by
  rintro rfl
  simp [Collector.owing, endRound, Collector.filling, Collector.waiting, Collector.retrying] at h

theorem Collector.not_owing {C : Collector} (hf : C.filling = false) (hw : C.waiting = [])
    (hr : C.retrying = []) : ¬C.owing := by
  simp [Collector.owing, hf, hw, hr]

namespace Queue

variable {c : Config} {n : Nat} {M : Int} {q q' : Queue} {a : Act}

/-- The rounds since the close was read, `n` calls to `api.Batch` before it. With
`j = q.calls.length - n` calls made since, every oid waiting for the next batch has a retry
count of at least `j`, every oid the round may still carry one of at least `j - 1`, and the
round owes a call or a carried object only while `j ≤ MaxRetries`. -/
structure Rounds (n : Nat) (M : Int) (q : Queue) : Prop where
  calls : n ≤ q.calls.length
  max : q.rc.maxRetries = M
  closing : q.collector.closing = true
  waiting : ∀ x ∈ q.collector.waiting, q.calls.length - n ≤ q.rc.count x
  pending : ∀ x ∈ oids q.collector.retrying ++ q.collector.candidates,
    q.calls.length - n ≤ q.rc.count x + 1
  budget : q.collector.owing → ((q.calls.length - n : Nat) : Int) ≤ M
  bound : ((q.calls.length - n : Nat) : Int) ≤ M + 1

theorem rounds_start {b : Batch} (hc : q.collector = .fill true b) :
    Rounds q.calls.length q.rc.maxRetries q where
  calls := le_rfl
  max := rfl
  closing := by rw [hc]; rfl
  waiting _ _ := by simp
  pending _ h := by simp [hc, Collector.retrying, Collector.candidates] at h
  budget _ := by have := q.rc.one_le; omega
  bound := by have := q.rc.one_le; omega

theorem Rounds.closing_of {C : Collector} (hr : Rounds n M q) (hc : q.collector = C) :
    C.closing = true :=
  hc ▸ hr.closing

theorem Rounds.crash (hr : Rounds n M q) : Rounds n M q.crash :=
  ⟨hr.1, hr.2, hr.3, hr.4, hr.5, hr.6, hr.7⟩

theorem Rounds.frame (hr : Rounds n M q) (hc : q'.calls = q.calls) (hrc : q'.rc = q.rc)
    (hcl : q'.collector.closing = true) (hw : q'.collector.waiting ⊆ q.collector.waiting)
    (hp : oids q'.collector.retrying ++ q'.collector.candidates ⊆
      oids q.collector.retrying ++ q.collector.candidates)
    (hb : q'.collector.owing → ((q.calls.length - n : Nat) : Int) ≤ M) : Rounds n M q' where
  calls := hc ▸ hr.calls
  max := hrc ▸ hr.max
  closing := hcl
  waiting x hx := hc ▸ hrc ▸ hr.waiting x (hw hx)
  pending x hx := hc ▸ hrc ▸ hr.pending x (hp hx)
  budget h := hc ▸ hb h
  bound := hc ▸ hr.bound

theorem Rounds.same (hr : Rounds n M q) (hc : q'.calls = q.calls) (hrc : q'.rc = q.rc)
    (hC : q'.collector = q.collector) : Rounds n M q' :=
  hr.frame hc hrc (hC ▸ hr.closing) (hC ▸ List.Subset.refl _) (hC ▸ List.Subset.refl _)
    (hC ▸ hr.budget)

theorem Rounds.of_sendError {e : QueueError} {C : Collector} (hr : Rounds n M q)
    (h : q.sendError e (fun q => { q with collector := C }) = some q') (hcl : C.closing = true)
    (hw : C.waiting ⊆ q.collector.waiting)
    (hp : oids C.retrying ++ C.candidates ⊆ oids q.collector.retrying ++ q.collector.candidates)
    (hb : C.owing → ((q.calls.length - n : Nat) : Int) ≤ M) : Rounds n M q' := by
  rcases sendError_cases h with rfl | ⟨-, -, rfl⟩
  exacts [hr.crash, hr.frame rfl rfl hcl hw hp hb]

theorem Rounds.of_done {y : Oid} {o : Outcome} {C : Collector} (hr : Rounds n M q)
    (h : q.done y o (fun q => { q with collector := C }) = some q') (hcl : C.closing = true)
    (hw : C.waiting ⊆ q.collector.waiting)
    (hp : oids C.retrying ++ C.candidates ⊆ oids q.collector.retrying ++ q.collector.candidates)
    (hb : C.owing → ((q.calls.length - n : Nat) : Int) ≤ M) : Rounds n M q' := by
  rcases done_cases h with rfl | ⟨-, rfl⟩
  exacts [hr.crash, hr.frame rfl rfl hcl hw hp hb]

theorem Rounds.quiet {C : Collector} (hr : Rounds n M q) (hcl : C.closing = true)
    (hp : oids C.retrying ++ C.candidates ⊆ oids q.collector.retrying ++ q.collector.candidates)
    (hC : ¬C.owing) : Rounds n M { q with collector := C } :=
  hr.frame rfl rfl hcl (by simp_all [Collector.owing]) hp (absurd · hC)

/-! ### Each action keeps the rounds -/

theorem Rounds.receive (hr : Rounds n M q) (h : q.receive c = some q') : Rounds n M q' := by
  obtain ⟨batch, hc, -⟩ := receive_spec h
  exact absurd hr.closing (by simp [hc, Collector.closing])

theorem Rounds.dispatch (hr : Rounds n M q) (h : q.dispatch c = some q') : Rounds n M q' := by
  obtain ⟨closing, batch, hc, -, rfl⟩ := dispatch_spec h
  obtain rfl : closing = true := hr.closing_of hc
  have hs : oids batch.sortDesc ⊆ oids batch := ((Batch.sortDesc_perm batch).map _).subset
  refine hr.frame rfl rfl rfl
    (by simpa [hc, Collector.waiting] using hs) (by simp [Collector.retrying, Collector.candidates])
    fun _ => hr.budget (.inl (by rw [hc]; rfl))

/-- The call to `api.Batch`: the count of calls since the close goes up by one, within the
budget since the round owed it, and every object the round may carry is of the batch sent,
whose oids were waiting with a count of at least the old number of calls. -/
theorem Rounds.call {batch : Batch} (hr : Rounds n M q) (hc : q.collector = .negotiate true batch)
    (hq : q'.calls = q.calls ++ [batch]) (hrc : q'.rc = q.rc) (hcl : q'.collector.closing = true)
    (hC : ¬q'.collector.owing)
    (hp : oids q'.collector.retrying ++ q'.collector.candidates ⊆ oids batch) :
    Rounds n M q' := by
  have hj := hr.budget (.inl (by rw [hc]; rfl))
  have hn := hr.calls
  have hl : q'.calls.length = q.calls.length + 1 := by simp [hq]
  refine ⟨by omega, hrc ▸ hr.max, hcl,
    fun x hx => (hC (.inr (.inl (List.ne_nil_of_mem hx)))).elim, fun x hx => ?_, (absurd · hC),
    by omega⟩
  have := hr.waiting x (by simpa [hc, Collector.waiting] using hp hx)
  rw [hl, hrc]
  omega

theorem Rounds.negotiate {r : Except Err (String × List ObjectResource)} (hr : Rounds n M q)
    (ha : Answers q (.negotiate r)) (h : q.negotiate r = some q') : Rounds n M q' := by
  obtain ⟨closing, batch, hc, ⟨e, -, rfl⟩ | ⟨name, objs, rfl, rfl⟩⟩ := negotiate_spec h
  all_goals obtain rfl : closing = true := hr.closing_of hc
  · exact hr.call hc rfl rfl rfl (by simp [Collector.owing, Collector.filling, Collector.waiting,
      Collector.retrying]) (by simp [Collector.retrying, Collector.candidates])
  · obtain ⟨_, _, _, hu⟩ := q.useAdapter_eq name
    refine hr.call hc rfl (by simp [hu]) rfl
      (by simp [Collector.owing, Collector.filling, Collector.waiting, Collector.retrying]) ?_
    simp only [Collector.retrying, Collector.candidates, oids_nil, List.nil_append,
      List.append_nil]
    intro x hx
    obtain ⟨o, ho, rfl⟩ := List.mem_map.mp hx
    simpa [Answers, Collector.negotiating, hc] using ha o ho

theorem Rounds.carry {y : Oid} (hr : Rounds n M q) (hc : q'.calls = q.calls)
    (hrc : q'.rc = q.rc.increment y)
    (hy : y ∈ oids q.collector.retrying ++ q.collector.candidates)
    (hcl : q'.collector.closing = true) (hw : q'.collector.waiting ⊆ y :: q.collector.waiting)
    (hp : oids q'.collector.retrying ++ q'.collector.candidates ⊆
      oids q.collector.retrying ++ q.collector.candidates)
    (hb : q'.collector.owing → ((q.calls.length - n : Nat) : Int) ≤ M) : Rounds n M q' := by
  have hy' := hr.pending y hy
  refine ⟨hc ▸ hr.calls, by rw [hrc]; exact hr.max, hcl, fun x hx => ?_, fun x hx => ?_,
    hc ▸ hb, hc ▸ hr.bound⟩
  · rw [hc, hrc, RetryCounter.increment_count]
    rcases List.mem_cons.mp (hw hx) with rfl | hx
    · simp only [if_true]; omega
    · have := hr.waiting x hx; split <;> omega
  · rw [hc, hrc, RetryCounter.increment_count]
    have := hr.pending x (hp hx); split <;> omega

theorem Rounds.handle {closing : Bool} {next retries : Batch} {f f' : Feeder} (hr : Rounds n M q)
    (hc : q.collector = .collect closing next ⟨retries, f⟩) (hq : q'.calls = q.calls)
    (hrc : q'.rc = q.rc) (hC : q'.collector = .collect closing next ⟨retries, f'⟩)
    (hf : (Collector.collect closing next ⟨retries, f'⟩).candidates ⊆
      (Collector.collect closing next ⟨retries, f⟩).candidates) : Rounds n M q' := by
  have h₀ := hr.closing
  have h₁ := hr.budget
  rw [hc] at h₀ h₁
  refine hr.frame hq hrc (by rw [hC]; exact h₀) (by rw [hC, hc]; exact List.Subset.refl _)
    (fun x hx => ?_) (by rw [hC]; exact h₁)
  rw [hC, List.mem_append] at hx
  rw [hc, List.mem_append]
  exact hx.imp id (@hf x)

theorem Rounds.requeue (hr : Rounds n M q) (h : q.requeue = some q') : Rounds n M q' := by
  obtain ⟨closing, e, next, ⟨t, rest, hc, ⟨hy, rfl⟩ | ⟨-, hd⟩⟩ | ⟨hc, rfl⟩⟩ :=
    requeue_spec h
  all_goals obtain rfl : closing = true := hr.closing_of hc
  · have ht : t.oid ∈ oids q.collector.retrying ++ q.collector.candidates := by
      simp [hc, Collector.retrying, Collector.candidates]
    have hlt := hr.max ▸ ((canRetryObject_iff _ _ _).mp hy).1
    have hj := hr.pending _ ht
    refine hr.carry rfl rfl ht rfl (fun x hx => ?_) (fun x hx => ?_) fun _ => by omega
    · simp only [Collector.waiting, oids_append, oids_cons, oids_nil, List.mem_append,
        List.mem_singleton] at hx
      simp only [hc, Collector.waiting, List.mem_cons]
      tauto
    · simp_all [Collector.retrying, Collector.candidates]
  · exact hr.of_done hd rfl (by simp [hc, Collector.waiting])
      (by simp [hc, Collector.retrying, Collector.candidates])
      fun h => hr.budget (by rw [hc]; exact h)
  · exact hr.frame rfl rfl rfl (by simp [hc, Collector.waiting]) (by simp [Collector.retrying,
      Collector.candidates]) fun h => hr.budget (by rw [hc]; exact h)

theorem Rounds.forward (hr : Rounds n M q) (h : q.forward = some q') : Rounds n M q' := by
  obtain ⟨closing, e, next, hc, hs⟩ := forward_spec h
  obtain rfl : closing = true := hr.closing_of hc
  exact hr.of_sendError hs (closing_endRound next)
    (by rw [waiting_endRound, hc]; exact List.Subset.refl _) (by simp)
    fun h => hr.budget (.inr (.inl (by simpa [hc, Collector.waiting, oids] using owing_endRound h)))

theorem Rounds.scan (hr : Rounds n M q) (h : q.scan c = some q') : Rounds n M q' := by
  obtain ⟨closing, tt, ⟨objs, hc, rfl, rfl⟩ |
      ⟨o, objs, hc, ⟨e, -, hs⟩ | ⟨-, hd⟩ | ⟨t, ht, rfl⟩ | ⟨-, rfl⟩⟩⟩ := scan_spec h
  all_goals obtain rfl : closing = true := hr.closing_of hc
  · exact hr.quiet rfl (by simp [hc, Collector.retrying, Collector.candidates])
      (Collector.not_owing rfl rfl rfl)
  · exact hr.of_sendError hs rfl (List.nil_subset _)
      (by simp [hc, Collector.retrying, Collector.candidates])
      (absurd · (Collector.not_owing rfl rfl rfl))
  · exact hr.of_done hd rfl (List.nil_subset _)
      (by simp [hc, Collector.retrying, Collector.candidates])
      (absurd · (Collector.not_owing rfl rfl rfl))
  · have := q.lookup_oid (dispose_transfer ht)
    exact hr.quiet rfl (by simp [hc, Collector.retrying, Collector.candidates, this])
      (Collector.not_owing rfl rfl rfl)
  · exact hr.crash

theorem Rounds.skip (hr : Rounds n M q) (h : q.skip = some q') : Rounds n M q' := by
  obtain ⟨closing, y, objs, tt, hc, hd⟩ := skip_spec h
  obtain rfl : closing = true := hr.closing_of hc
  exact hr.of_done hd rfl (List.nil_subset _)
    (by simp [hc, Collector.retrying, Collector.candidates])
    (absurd · (Collector.not_owing rfl rfl rfl))

theorem Rounds.begin {r : Option Err} (hr : Rounds n M q) (h : q.begin c r = some q') :
    Rounds n M q' := by
  obtain ⟨closing, pending, hc,
      ⟨-, rfl⟩ | ⟨-, -, rfl⟩ | ⟨-, -, -, rfl⟩ | ⟨e, -, -, -, rfl⟩⟩ := begin_spec h
  all_goals obtain rfl : closing = true := hr.closing_of hc
  all_goals first
    | exact hr.crash
    | exact hr.frame rfl rfl rfl (List.nil_subset _)
        (by simp [hc, Queue.spawn, Collector.retrying, Collector.candidates])
        (absurd · (Collector.not_owing rfl rfl rfl))

theorem Rounds.abandon (hr : Rounds n M q) (h : q.abandon = some q') : Rounds n M q' := by
  obtain ⟨closing, e, pending, hc, hs⟩ := abandon_spec h
  obtain rfl : closing = true := hr.closing_of hc
  exact hr.of_sendError hs rfl (List.nil_subset _) (List.nil_subset _)
    (absurd · (Collector.not_owing rfl rfl rfl))

theorem Rounds.drop (hr : Rounds n M q) (h : q.drop = some q') : Rounds n M q' := by
  obtain ⟨closing, ⟨t, rest, hc, hd⟩ | ⟨hc, rfl⟩⟩ := drop_spec h
  all_goals obtain rfl : closing = true := hr.closing_of hc
  · exact hr.of_done hd rfl (List.nil_subset _) (List.nil_subset _)
      (absurd · (Collector.not_owing rfl rfl rfl))
  · exact hr.frame rfl rfl (closing_endRound []) (by simp) (by simp)
      fun h => absurd rfl (owing_endRound h)

theorem Rounds.result {t : Transferable} {err : Option Err} (hr : Rounds n M q)
    (h : q.result c t err = some q') : Rounds n M q' := by
  obtain ⟨closing, next, retries, pending, hc, ht, -, hr'⟩ := result_spec h
  obtain rfl : closing = true := hr.closing_of hc
  have he : oids (pending.erase t) ⊆ oids pending := List.map_subset _ (List.erase_subset _ _)
  rcases hr' with ⟨-, rfl⟩ | ⟨e, -, ⟨hy, ⟨t', hl, rfl⟩ | ⟨-, rfl⟩⟩ | ⟨-, rfl⟩⟩
    <;> try exact hr.handle hc rfl rfl rfl he
  -- the transfer failed and may be retried: it goes on `retries`
  have hto : t.oid ∈ oids q.collector.retrying ++ q.collector.candidates := by
    simp [hc, Collector.retrying, Collector.candidates, mem_oids_of_mem ht]
  have hj := hr.pending _ hto
  have hlt := hr.max ▸ ((canRetryObject_iff _ _ _).mp hy).1
  have := q.lookup_oid hl
  refine hr.frame rfl rfl rfl (by simp [hc, setResults, Collector.waiting]) (fun x hx => ?_)
    fun _ => by omega
  simp only [setResults, Collector.retrying, Collector.candidates, oids_append, oids_cons,
    oids_nil, List.mem_append, List.mem_singleton] at hx
  simp only [hc, Collector.retrying, Collector.candidates, List.mem_append]
  rcases hx with (hx | rfl) | hx
  · exact .inl hx
  · exact .inr (this ▸ mem_oids_of_mem ht)
  · exact .inr (he hx)

theorem Rounds.notify (hr : Rounds n M q) (h : q.notify c = some q') : Rounds n M q' := by
  obtain ⟨closing, next, retries, pending, t, k, hc,
      ⟨-, rfl⟩ | ⟨w, -, -, rfl⟩ | ⟨w, -, -, -, rfl⟩⟩ := notify_spec h
  exacts [hr.handle hc rfl rfl rfl (List.Subset.refl _), hr.crash,
    hr.handle hc rfl rfl rfl (List.Subset.refl _)]

theorem Rounds.report (hr : Rounds n M q) (h : q.report = some q') : Rounds n M q' := by
  obtain ⟨closing, next, retries, pending, t, e, d, hc, hs⟩ := report_spec h
  rcases sendError_cases hs with rfl | ⟨-, -, rfl⟩
  exacts [hr.crash, hr.handle hc rfl rfl rfl (List.Subset.refl _)]

theorem Rounds.finish (hr : Rounds n M q) (h : q.finish = some q') : Rounds n M q' := by
  obtain ⟨closing, next, retries, pending, t, o, hc, hd⟩ := finish_spec h
  rcases done_cases hd with rfl | ⟨-, rfl⟩
  exacts [hr.crash, hr.handle hc rfl rfl rfl (List.Subset.refl _)]

theorem Rounds.closeRetries (hr : Rounds n M q) (h : q.closeRetries = some q') : Rounds n M q' := by
  obtain ⟨closing, next, retries, hc, rfl⟩ := closeRetries_spec h
  exact hr.handle hc rfl rfl rfl (List.nil_subset _)

theorem Rounds.retry (hr : Rounds n M q) (h : q.retry = some q') : Rounds n M q' := by
  obtain ⟨closing, next, t, rest, f, hc, rfl⟩ := retry_spec h
  obtain rfl : closing = true := hr.closing_of hc
  have hb := hr.budget (.inr (.inr (by simp [hc, Collector.retrying])))
  refine hr.carry rfl rfl (by simp [hc, Collector.retrying]) rfl (fun x hx => ?_) (fun x hx => ?_)
    fun _ => hb
  · simp only [setResults, Collector.waiting, oids_append, oids_cons, oids_nil, List.mem_append,
      List.mem_singleton] at hx
    simp only [hc, Collector.waiting, List.mem_cons]
    tauto
  · rw [hc]
    simp only [setResults, Collector.retrying, oids_cons, List.mem_append, List.mem_cons] at hx ⊢
    rcases hx with hx | hx
    · exact .inl (.inr hx)
    · exact .inr (by cases f <;> exact hx)

theorem Rounds.endRound (hr : Rounds n M q) (h : q.endRound = some q') : Rounds n M q' := by
  obtain ⟨closing, next, hc, rfl⟩ := endRound_spec h
  obtain rfl : closing = true := hr.closing_of hc
  exact hr.frame rfl rfl (closing_endRound next)
    (by rw [waiting_endRound, hc]; exact List.Subset.refl _) (by simp)
    fun h => hr.budget (.inr (.inl (by simpa [hc, Collector.waiting, oids] using owing_endRound h)))

theorem step_rounds (hr : Rounds n M q) (ha : Answers q a) (h : step c q a = some q') :
    Rounds n M q' := by
  cases a <;> simp only [step] at h <;> split at h <;> first | cases h | skip
  case add.isFalse =>
    obtain ⟨-, ⟨-, rfl⟩ | ⟨-, rfl⟩⟩ := add_spec h
    exacts [hr, hr.same rfl rfl rfl]
  case send.isFalse =>
    obtain ⟨-, rfl | ⟨-, rfl⟩⟩ := send_spec h
    exacts [hr.crash, hr.same rfl rfl rfl]
  case receive.isFalse => exact hr.receive h
  case dispatch.isFalse => exact hr.dispatch h
  case negotiate.isFalse => exact hr.negotiate ha h
  case requeue.isFalse => exact hr.requeue h
  case forward.isFalse => exact hr.forward h
  case scan.isFalse => exact hr.scan h
  case skip.isFalse => exact hr.skip h
  case begin.isFalse => exact hr.begin h
  case abandon.isFalse => exact hr.abandon h
  case drop.isFalse => exact hr.drop h
  case result.isFalse => exact hr.result h
  case notify.isFalse => exact hr.notify h
  case report.isFalse => exact hr.report h
  case finish.isFalse => exact hr.finish h
  case closeRetries.isFalse => exact hr.closeRetries h
  case retry.isFalse => exact hr.retry h
  case endRound.isFalse => exact hr.endRound h
  case waitStart.isFalse =>
    obtain ⟨-, -, rfl | rfl⟩ := waitStart_spec h
    exacts [hr.crash, hr.same rfl rfl rfl]
  case waitWake.isFalse =>
    obtain ⟨-, -, rfl⟩ := waitWake_spec h
    exact hr.same rfl rfl rfl
  case finishAdapter.isFalse =>
    obtain ⟨-, rfl⟩ := finishAdapterStep_spec h
    obtain ⟨_, _, _, hu⟩ := q.finishAdapter_eq
    rw [hu]
    exact hr.same rfl rfl rfl
  case closeErrors.isFalse =>
    obtain ⟨-, rfl | ⟨-, rfl⟩⟩ := closeErrors_spec h
    exacts [hr.crash, hr.same rfl rfl rfl]
  case waitReturn.isFalse =>
    obtain ⟨-, -, rfl⟩ := waitReturn_spec h
    exact hr.same rfl rfl rfl
  case collectError.isFalse =>
    obtain ⟨_, -, rfl⟩ := collectError_spec h
    exact hr.same rfl rfl rfl
  case collectorExit.isFalse =>
    obtain ⟨-, -, rfl⟩ := collectorExit_spec h
    exact hr.same rfl rfl rfl
  case consume.isFalse =>
    obtain ⟨_, _, _, -, -, rfl⟩ := consume_spec h
    exact hr.same rfl rfl rfl

theorem run_rounds : ∀ {q q' : Queue} {as : List Act}, Rounds n M q →
    Tq.run c Answers.check q as = some q' → Rounds n M q'
  | _, _, [], hr, h => by cases h; exact hr
  | q, _, a :: as, hr, h => by
    simp only [Tq.run] at h
    split at h
    · obtain ⟨q₁, h₁, h₂⟩ := Option.bind_eq_some.mp h
      exact run_rounds (step_rounds hr (Answers.of_check ‹_›) h₁) h₂
    · cases h

/-- Once `collectBatches` has read the close, a run in which every response answers only the
batch sent makes at most `MaxRetries + 1` calls to `api.Batch`, the closing round's own call
counted. After the last of them the loop has no batch to fill, no object waiting for a next
batch and none to retry, and the end of the round is the loop's exit. -/
theorem calls_after_close {b : Batch} {as : List Act} (hc : q.collector = .fill true b)
    (h : Tq.run c Answers.check q as = some q') :
    (q'.calls.length : Int) ≤ q.calls.length + q.rc.maxRetries + 1 ∧
      ((q'.calls.length : Int) = q.calls.length + q.rc.maxRetries + 1 →
        q'.collector.closing = true ∧ q'.collector.filling = false ∧ q'.collector.waiting = [] ∧
          q'.collector.retrying = [] ∧ ∀ q'', q'.endRound = some q'' → q''.collector = .exited) := by
  have hr := run_rounds (rounds_start hc) h
  have hn := hr.calls
  have hj := hr.bound
  refine ⟨by omega, fun he => ?_⟩
  have hnot : ¬q'.collector.owing := fun ho => by have := hr.budget ho; omega
  simp only [Collector.owing, not_or, Bool.not_eq_true, not_not] at hnot
  obtain ⟨hf, hw, hrt⟩ := hnot
  refine ⟨hr.closing, hf, hw, hrt, fun q'' hq => ?_⟩
  obtain ⟨closing, next, hc', rfl⟩ := endRound_spec hq
  have hcl : closing = true := hr.closing_of hc'
  have hnx : next = [] := by simpa [hc', Collector.waiting, oids] using hw
  simp [hcl, hnx, Tq.endRound]

/-- One object added and `Wait` called, with the default bound of one retry. -/
def closedStart : Queue :=
  let t : Transferable := ⟨"a", 1⟩
  let q₀ := Queue.init defaultConfig (newRetryCounter (.ok none))
  (run defaultConfig (fun _ _ => true) q₀ [.add t, .send t, .receive, .waitStart, .receive]).getD q₀

/-- The round that reads the close negotiates the object, whose transfer fails with a
retriable error; the next round negotiates it again, and it fails and is reported. -/
def closedTrace : List Act :=
  let t : Transferable := ⟨"a", 1⟩
  let o : ObjectResource := ⟨"a", 1, ["upload"], none⟩
  let e : Err := ⟨true, "timeout"⟩
  [.dispatch, .negotiate (.ok ("basic", [o])), .scan, .scan, .begin none, .result t (some e),
   .closeRetries, .retry, .endRound, .dispatch, .negotiate (.ok ("basic", [o])), .scan, .scan,
   .begin none, .result t (some e), .report, .collectError, .finish, .closeRetries, .endRound]

def closedRun : Queue := (run defaultConfig Answers.check closedStart closedTrace).getD closedStart

theorem closedRun_calls :
    (closedRun.calls.length : Int) ≤ closedStart.calls.length + closedStart.rc.maxRetries + 1 ∧
      ((closedRun.calls.length : Int) = closedStart.calls.length + closedStart.rc.maxRetries + 1 →
        closedRun.collector.closing = true ∧ closedRun.collector.filling = false ∧
          closedRun.collector.waiting = [] ∧ closedRun.collector.retrying = [] ∧
          ∀ q'', closedRun.endRound = some q'' → q''.collector = .exited) :=
  calls_after_close (rfl : closedStart.collector = .fill true [⟨"a", 1⟩])
    (rfl : run defaultConfig Answers.check closedStart closedTrace = some closedRun)

example : closedRun.calls.length = closedStart.calls.length + 2 ∧
    closedStart.rc.maxRetries = 1 ∧ closedRun.collector = .exited := by decide

end Queue

end GitLfs.Tq
