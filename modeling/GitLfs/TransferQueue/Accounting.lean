import GitLfs.TransferQueue.Ledger

/-! # Every added oid is counted and closed out exactly once

Under the response contract of the batch API, the wait counter of the queue equals the
number of added oids not yet closed out, each of them is in exactly one place, each is
sent on `q.incoming` once, and each watcher has been sent exactly the oids that succeeded.
-/

namespace GitLfs.Tq

/-- The response contract of `api.Batch`: a successful response holds one object per oid
of the batch, in any order. The adapter's contract, one result per transfer, is built
into `Queue.result`. -/
def Contract (q : Queue) : Act → Prop
  | .negotiate (.ok (_, objs)) => List.Perm (objs.map (·.oid)) (oids q.collector.negotiating)
  | _ => True

/-- `Contract`, decided. -/
def Contract.check (q : Queue) : Act → Bool
  | .negotiate (.ok (_, objs)) => decide (List.Perm (objs.map (·.oid)) (oids q.collector.negotiating))
  | _ => true

theorem Contract.of_check {q : Queue} {a : Act} (h : Contract.check q a = true) : Contract q a := by
  unfold Contract.check at h
  unfold Contract
  split at h <;> simp_all

/-- The oid `handleTransferResult` has already sent to watcher `i` but not yet closed out. -/
def Handling.notified (i : Nat) : Handling → List Oid
  | .notify t k => if i < k then [t.oid] else []
  | .finish t .succeeded => [t.oid]
  | _ => []

def Collector.notified (i : Nat) : Collector → List Oid
  | .collect _ _ ⟨_, .running _ h⟩ => h.notified i
  | _ => []

namespace Queue

variable {c : Config} {q q' : Queue} {a : Act}

def succeeded (q : Queue) : List Oid := (q.outcomes.filter (·.2 == .succeeded)).map (·.1)

/-- Each watcher has been sent the oids that succeeded, and the one `handleTransferResult`
is sending to the watchers, once each. -/
def Watched (q : Queue) : Prop := ∀ i w, q.watchers[i]? = some w → ∀ x,
  w.sent.count x = q.succeeded.count x + (q.collector.notified i).count x

/-- The accounting of the queue. `held` and `owed` together say that the wait counter is
the number of oids in `pipeline`, each held once. -/
structure Accounted (q : Queue) : Prop where
  held : ∀ x, q.held x = q.keys.count x
  owed : q.owed = q.keys.length
  nodup : q.keys.Nodup
  sent : ∀ x, (oids q.sent).count x + (oids q.adding).count x = q.keys.count x
  closed : q.waitPc ≠ .idle → q.adding = []
  drained : q.waitPc.drained → q.wait = 0
  watched : q.Watched

theorem accounted_init (c : Config) (rc : RetryCounter) : Accounted (Queue.init c rc) where
  held _ := rfl
  owed := rfl
  nodup := List.nodup_nil
  sent _ := rfl
  closed h := rfl
  drained h := rfl
  watched i w hw x := by
    simp only [Queue.init, List.getElem?_replicate] at hw
    split at hw <;> cases hw
    rfl

theorem Accounted.mem_keys (hq : Accounted q) {x : Oid} (h : x ∈ q.pipeline) : x ∈ q.keys := by
  have := hq.held x
  rw [← List.count_pos_iff] at h ⊢
  simp only [Queue.held] at this
  omega

theorem Accounted.perm (hq : Accounted q) : List.Perm (q.pipeline ++ q.terminal) q.keys :=
  List.perm_iff_count.mpr fun x => by rw [List.count_append]; exact hq.held x

theorem Accounted.wait_eq (hq : Accounted q) : q.wait = q.pipeline.length := by
  have h₁ := hq.perm.length_eq
  have h₂ := hq.owed
  simp only [List.length_append, Queue.owed, terminal, List.length_map] at h₁ h₂
  omega

theorem Accounted.crash (hq : Accounted q) : Accounted q.crash :=
  ⟨hq.1, hq.2, hq.3, hq.4, hq.5, hq.6, hq.7⟩

theorem Accounted.of_moves (hq : Accounted q) (hm : Moves q q')
    (hs : ∀ x, (oids q'.sent).count x + (oids q'.adding).count x =
      (oids q.sent).count x + (oids q.adding).count x)
    (hcl : q'.waitPc ≠ .idle → q'.adding = [])
    (hd : q'.waitPc.drained → q.waitPc.drained ∨ q'.wait = 0) (hw : q'.Watched) : Accounted q' where
  held x := by rw [hm.held, hm.keys]; exact hq.held x
  owed := by rw [hm.owed, hm.keys]; exact hq.owed
  nodup := hm.keys ▸ hq.nodup
  sent x := by rw [hs, hm.keys]; exact hq.sent x
  closed := hcl
  drained h := (hd h).elim (fun h => Nat.le_zero.mp (hq.drained h ▸ hm.wait_le)) id
  watched := hw

theorem Watched.of_sent (hq : q.Watched)
    (hw : ∀ (i : Nat) (w : Watcher), q'.watchers[i]? = some w →
      ∃ v : Watcher, q.watchers[i]? = some v ∧ w.sent = v.sent)
    (hsu : q'.succeeded = q.succeeded)
    (hn : ∀ i, q'.collector.notified i = q.collector.notified i) : q'.Watched := by
  intro i w h x
  obtain ⟨v, hv, he⟩ := hw i w h
  rw [hsu, hn, he]
  exact hq i v hv x

theorem Accounted.frame (hq : Accounted q) (hm : Moves q q') (hs : q'.sent = q.sent)
    (ha : q'.adding = q.adding) (hp : q'.waitPc = q.waitPc)
    (hn : ∀ i, q'.collector.notified i = q.collector.notified i)
    (hw : q'.watchers = q.watchers) (ho : q'.outcomes = q.outcomes) : Accounted q' :=
  hq.of_moves hm (fun _ => by rw [hs, ha]) (fun h => ha ▸ hq.closed (hp ▸ h)) (fun h => .inl (hp ▸ h))
    (Watched.of_sent hq.watched (fun i w h => ⟨w, hw ▸ h, rfl⟩) (by simp [succeeded, ho]) hn)

theorem Accounted.of_sendError {e : QueueError} {C : Collector} (hq : Accounted q)
    (h : q.sendError e (fun q => { q with collector := C }) = some q') (hm : Moves q q')
    (hn : ∀ i, C.notified i = q.collector.notified i) : Accounted q' := by
  rcases sendError_cases h with rfl | ⟨-, -, rfl⟩
  · exact hq.crash
  · exact hq.frame hm rfl rfl rfl hn rfl rfl

theorem Accounted.of_done {y : Oid} {o : Outcome} {C : Collector} (hq : Accounted q)
    (h : q.done y o (fun q => { q with collector := C }) = some q') (hm : Moves q q')
    (hn : ∀ i x, (C.notified i).count x + (if o = .succeeded ∧ y = x then 1 else 0) =
      (q.collector.notified i).count x) : Accounted q' := by
  rcases done_cases h with rfl | ⟨-, rfl⟩
  · exact hq.crash
  · refine hq.of_moves hm (fun _ => rfl) hq.closed .inl fun i w hw x => ?_
    have h₁ := hq.watched i w hw x
    have h₂ := hn i x
    by_cases ho : o = .succeeded <;> by_cases hy : y = x <;>
      simp_all [succeeded, List.filter_append, List.count_cons]; omega

theorem sent_of_set {ws : List Watcher} {k i : Nat} {w u v : Watcher} (hk : ws[k]? = some w)
    (hu : u.sent = w.sent) (hv : (ws.set k u)[i]? = some v) :
    ∃ v' : Watcher, ws[i]? = some v' ∧ v.sent = v'.sent := by
  by_cases hi : k = i
  · subst hi
    have hl : k < ws.length := (List.getElem?_eq_some_iff.mp hk).1
    rw [List.getElem?_set, if_pos rfl, if_pos hl] at hv
    cases hv; exact ⟨w, hk, hu⟩
  · rw [List.getElem?_set_ne hi] at hv
    exact ⟨v, hv, rfl⟩

theorem notified_endRound (closing : Bool) (next : Batch) (i : Nat) :
    (Tq.endRound closing next).notified i = [] := by
  unfold Tq.endRound; split <;> rfl

/-! ### Each action keeps the accounting -/

theorem Accounted.add {t : Transferable} (hq : Accounted q) (h : q.add t = some q') :
    Accounted q' := by
  have hl := add_held h
  obtain ⟨hi, ⟨-, rfl⟩ | ⟨hn, rfl⟩⟩ := add_spec h
  · exact hq
  · refine ⟨fun x => ?_, ?_, ?_, fun x => ?_, fun h => absurd hi h, fun h => ?_, hq.watched⟩
    · have := hl.2 x; have := hq.held x; omega
    · have := hl.1; have := hq.owed; omega
    · simpa [keys, List.nodup_append] using ⟨hq.nodup, hn⟩
    · have := hq.sent x; simp [keys, List.count_cons] at this ⊢; omega
    · simp [hi, WaitPc.drained] at h

theorem Accounted.send {t : Transferable} (hq : Accounted q) (h : q.send c t = some q') :
    Accounted q' := by
  have hm := send_moves h
  obtain ⟨ht, rfl | ⟨-, rfl⟩⟩ := send_spec h
  · exact hq.crash
  · refine hq.of_moves hm (fun x => ?_) (fun h => absurd (hq.closed h ▸ ht) (List.not_mem_nil t))
      .inl hq.watched
    have := count_oids_erase ht x
    simp [List.count_cons] at this ⊢; omega

theorem Accounted.receive (hq : Accounted q) (h : q.receive c = some q') : Accounted q' := by
  have hm := receive_moves h
  obtain ⟨batch, hc, -, ⟨t, rest, -, rfl⟩ | ⟨-, -, rfl⟩⟩ := receive_spec h <;>
    exact hq.frame hm rfl rfl rfl (fun i => by simp [Collector.notified, hc]) rfl rfl

theorem Accounted.dispatch (hq : Accounted q) (h : q.dispatch c = some q') : Accounted q' := by
  have hm := dispatch_moves h
  obtain ⟨closing, batch, hc, -, rfl⟩ := dispatch_spec h
  exact hq.frame hm rfl rfl rfl (fun i => by simp [Collector.notified, hc]) rfl rfl

theorem Accounted.negotiate {r : Except Err (String × List ObjectResource)} (hq : Accounted q)
    (hr : Contract q (.negotiate r)) (h : q.negotiate r = some q') : Accounted q' := by
  have hm := negotiate_moves h fun name objs he => by subst he; exact hr
  obtain ⟨closing, batch, hc, ⟨e, -, rfl⟩ | ⟨name, objs, -, rfl⟩⟩ := negotiate_spec h
  · exact hq.frame hm rfl rfl rfl (fun i => by simp [Collector.notified, hc]) rfl rfl
  · obtain ⟨a, p, e, hu⟩ := q.useAdapter_eq name
    exact hq.frame hm (by simp [hu]) (by simp [hu]) (by simp [hu])
      (fun i => by simp [Collector.notified, hc]) (by simp [hu]) (by simp [hu])

theorem Accounted.requeue (hq : Accounted q) (h : q.requeue = some q') : Accounted q' := by
  have hm := requeue_moves h
  obtain ⟨closing, e, next, ⟨t, rest, hc, ⟨-, rfl⟩ | ⟨-, hd⟩⟩ | ⟨hc, rfl⟩⟩ := requeue_spec h
  · exact hq.frame hm rfl rfl rfl (fun i => by simp [Collector.notified, hc]) rfl rfl
  · exact hq.of_done hd hm fun i x => by simp [Collector.notified, hc]
  · exact hq.frame hm rfl rfl rfl (fun i => by simp [Collector.notified, hc]) rfl rfl

theorem Accounted.forward (hq : Accounted q) (h : q.forward = some q') : Accounted q' := by
  obtain ⟨closing, e, next, hc, hs⟩ := forward_spec h
  exact hq.of_sendError hs (forward_moves h) fun i => by rw [notified_endRound, hc]; rfl

theorem Accounted.scan (hq : Accounted q) (h : q.scan c = some q') : Accounted q' := by
  have hm := scan_moves h
  obtain ⟨closing, tt, ⟨objs, hc, -, rfl⟩ | ⟨o, objs, hc, ⟨e, -, hs⟩ | ⟨-, hd⟩ | ⟨t, -, rfl⟩ | ⟨-, rfl⟩⟩⟩ :=
    scan_spec h
  · exact hq.frame hm rfl rfl rfl (fun i => by simp [Collector.notified, hc]) rfl rfl
  · exact hq.of_sendError hs hm fun i => by simp [Collector.notified, hc]
  · exact hq.of_done hd hm fun i x => by simp [Collector.notified, hc]
  · exact hq.frame hm rfl rfl rfl (fun i => by simp [Collector.notified, hc]) rfl rfl
  · exact hq.crash

theorem Accounted.skip (hq : Accounted q) (h : q.skip = some q') : Accounted q' := by
  obtain ⟨closing, y, objs, tt, hc, hd⟩ := skip_spec h
  exact hq.of_done hd (skip_moves h) fun i x => by simp [Collector.notified, hc]

theorem Accounted.begin {r : Option Err} (hq : Accounted q) (h : q.begin c r = some q') :
    Accounted q' := by
  have hm := begin_moves h
  obtain ⟨closing, pending, hc, ⟨-, rfl⟩ | ⟨-, -, rfl⟩ | ⟨-, -, -, rfl⟩ | ⟨e, -, -, -, rfl⟩⟩ :=
    begin_spec h
  · exact hq.frame hm rfl rfl rfl (fun i => by simp [Collector.notified, Handling.notified, hc, spawn]) rfl rfl
  · exact hq.crash
  · exact hq.frame hm rfl rfl rfl (fun i => by simp [Collector.notified, Handling.notified, hc, spawn]) rfl rfl
  · exact hq.frame hm rfl rfl rfl (fun i => by simp [Collector.notified, hc]) rfl rfl

theorem Accounted.abandon (hq : Accounted q) (h : q.abandon = some q') : Accounted q' := by
  obtain ⟨closing, e, pending, hc, hs⟩ := abandon_spec h
  exact hq.of_sendError hs (abandon_moves h) fun i => by simp [Collector.notified, hc]

theorem Accounted.drop (hq : Accounted q) (h : q.drop = some q') : Accounted q' := by
  have hm := drop_moves h
  obtain ⟨closing, ⟨t, rest, hc, hd⟩ | ⟨hc, rfl⟩⟩ := drop_spec h
  · exact hq.of_done hd hm fun i x => by simp [Collector.notified, hc]
  · exact hq.frame hm rfl rfl rfl (fun i => by dsimp only; rw [notified_endRound, hc]; rfl) rfl rfl

theorem Accounted.result {t : Transferable} {err : Option Err} (hq : Accounted q)
    (h : q.result c t err = some q') : Accounted q' := by
  have hm := result_moves h fun _ => hq.mem_keys
  obtain ⟨closing, next, retries, pending, hc, -, -, hr⟩ := result_spec h
  rcases hr with ⟨-, rfl⟩ | ⟨e, -, ⟨-, ⟨t', -, rfl⟩ | ⟨-, rfl⟩⟩ | ⟨-, rfl⟩⟩ <;>
    exact hq.frame hm rfl rfl rfl
      (fun i => by simp [Collector.notified, Handling.notified, hc, setResults]) rfl rfl

theorem Accounted.notify (hq : Accounted q) (h : q.notify c = some q') : Accounted q' := by
  have hm := notify_moves h
  obtain ⟨closing, next, retries, pending, t, k, hc, ⟨hk, rfl⟩ | ⟨w, -, -, rfl⟩ | ⟨w, hw, -, -, rfl⟩⟩ :=
    notify_spec h
  · refine hq.of_moves hm (fun _ => rfl) hq.closed .inl fun i v hv x => ?_
    replace hv : q.watchers[i]? = some v := hv
    have hi : i < k := by
      have := (List.getElem?_eq_some_iff.mp hv).1
      have := List.getElem?_eq_none_iff.mp hk
      omega
    have := hq.watched i v hv x
    simp [Collector.notified, Handling.notified, hc, hi] at this
    simpa [Collector.notified, Handling.notified, setResults] using this
  · exact hq.crash
  · refine hq.of_moves hm (fun _ => rfl) hq.closed .inl fun i v hv x => ?_
    dsimp only [setResults] at hv ⊢
    by_cases hi : k = i
    · subst hi
      have hl := (List.getElem?_eq_some_iff.mp hw).1
      simp only [List.getElem?_set, if_pos hl, if_true, Option.some.injEq] at hv
      subst hv
      have := hq.watched k w hw x
      simp [Collector.notified, Handling.notified, hc] at this
      simp [Collector.notified, Handling.notified, succeeded, List.count_cons, this]
    · rw [List.getElem?_set_ne hi] at hv
      have := hq.watched i v hv x
      have hik : i < k + 1 ↔ i < k := by omega
      simp [Collector.notified, Handling.notified, hc] at this
      simpa [Collector.notified, Handling.notified, setResults, hik] using this

theorem Accounted.report (hq : Accounted q) (h : q.report = some q') : Accounted q' := by
  obtain ⟨closing, next, retries, pending, t, e, d, hc, hs⟩ := report_spec h
  exact hq.of_sendError hs (report_moves h) fun i => by
    cases d <;> simp [Collector.notified, Handling.notified, hc]

theorem Accounted.finish (hq : Accounted q) (h : q.finish = some q') : Accounted q' := by
  obtain ⟨closing, next, retries, pending, t, o, hc, hd⟩ := finish_spec h
  exact hq.of_done hd (finish_moves h) fun i x => by
    cases o <;> simp [Collector.notified, Handling.notified, hc, List.count_cons]

theorem Accounted.closeRetries (hq : Accounted q) (h : q.closeRetries = some q') :
    Accounted q' := by
  obtain ⟨closing, next, retries, hc, rfl⟩ := closeRetries_spec h
  exact hq.frame (closeRetries_moves h) rfl rfl rfl
    (fun i => by simp [Collector.notified, Handling.notified, hc, setResults]) rfl rfl

theorem Accounted.retry (hq : Accounted q) (h : q.retry = some q') : Accounted q' := by
  obtain ⟨closing, next, t, rest, f, hc, rfl⟩ := retry_spec h
  exact hq.frame (retry_moves h) rfl rfl rfl
    (fun i => by cases f <;> simp [Collector.notified, hc, setResults]) rfl rfl

theorem Accounted.endRound (hq : Accounted q) (h : q.endRound = some q') : Accounted q' := by
  obtain ⟨closing, next, hc, rfl⟩ := endRound_spec h
  exact hq.frame (endRound_moves h) rfl rfl rfl
    (fun i => by dsimp only; rw [notified_endRound, hc]; rfl) rfl rfl

theorem Accounted.waitStart (hq : Accounted q) (h : q.waitStart = some q') : Accounted q' := by
  obtain ⟨-, ha, rfl | rfl⟩ := waitStart_spec h
  · exact hq.crash
  · exact hq.of_moves (moves_of rfl rfl rfl fun _ => rfl) (fun _ => rfl) (fun _ => ha) nofun
      hq.watched

theorem Accounted.waitWake (hq : Accounted q) (h : q.waitWake = some q') : Accounted q' := by
  obtain ⟨hp, hw, rfl⟩ := waitWake_spec h
  exact hq.of_moves (moves_of rfl rfl rfl fun _ => rfl) (fun _ => rfl)
    (fun _ => hq.closed (by simp [hp])) (fun _ => .inr hw) hq.watched

theorem Accounted.finishAdapterStep (hq : Accounted q) (h : q.finishAdapterStep = some q') :
    Accounted q' := by
  obtain ⟨hp, rfl⟩ := finishAdapterStep_spec h
  obtain ⟨a, p, e, hu⟩ := q.finishAdapter_eq
  rw [hu]
  exact hq.of_moves (moves_of rfl rfl rfl fun _ => rfl) (fun _ => rfl)
    (fun _ => hq.closed (by simp [hp])) (fun _ => .inl (by simp [hp, WaitPc.drained])) hq.watched

theorem Accounted.closeErrors (hq : Accounted q) (h : q.closeErrors = some q') :
    Accounted q' := by
  obtain ⟨hp, rfl | ⟨-, rfl⟩⟩ := closeErrors_spec h
  · exact hq.crash
  · refine hq.of_moves (moves_of rfl rfl rfl fun _ => rfl) (fun _ => rfl)
      (fun _ => hq.closed (by simp [hp])) (fun _ => .inl (by simp [hp, WaitPc.drained]))
      (Watched.of_sent hq.watched (fun i w hw => ?_) rfl fun _ => rfl)
    simp only [List.getElem?_map, Option.map_eq_some'] at hw
    obtain ⟨v, hv, rfl⟩ := hw
    exact ⟨v, hv, rfl⟩

theorem Accounted.waitReturn (hq : Accounted q) (h : q.waitReturn = some q') : Accounted q' := by
  obtain ⟨hp, -, rfl⟩ := waitReturn_spec h
  exact hq.of_moves (moves_of rfl rfl rfl fun _ => rfl) (fun _ => rfl)
    (fun _ => hq.closed (by simp [hp])) (fun _ => .inl (by simp [hp, WaitPc.drained])) hq.watched

theorem Accounted.collectError (hq : Accounted q) (h : q.collectError = some q') :
    Accounted q' := by
  obtain ⟨e, -, rfl⟩ := collectError_spec h
  exact hq.frame (moves_of rfl rfl rfl fun _ => rfl) rfl rfl rfl (fun _ => rfl) rfl rfl

theorem Accounted.collectorExit (hq : Accounted q) (h : q.collectorExit = some q') :
    Accounted q' := by
  obtain ⟨-, -, rfl⟩ := collectorExit_spec h
  exact hq.frame (moves_of rfl rfl rfl fun _ => rfl) rfl rfl rfl (fun _ => rfl) rfl rfl

theorem Accounted.consume {w : Nat} (hq : Accounted q) (h : q.consume w = some q') :
    Accounted q' := by
  obtain ⟨v, o, rest, hv, -, rfl⟩ := consume_spec h
  exact hq.of_moves (moves_of rfl rfl rfl fun _ => rfl) (fun _ => rfl) hq.closed .inl
    (Watched.of_sent hq.watched (fun i u hu => sent_of_set hv (by rfl) hu) rfl fun _ => rfl)

theorem step_accounted (hq : Accounted q) (hc : Contract q a) (h : step c q a = some q') :
    Accounted q' := by
  cases a <;> simp only [step] at h <;> split at h <;> first | cases h | skip
  case add.isFalse => exact hq.add h
  case send.isFalse => exact hq.send h
  case receive.isFalse => exact hq.receive h
  case dispatch.isFalse => exact hq.dispatch h
  case negotiate.isFalse => exact hq.negotiate hc h
  case requeue.isFalse => exact hq.requeue h
  case forward.isFalse => exact hq.forward h
  case scan.isFalse => exact hq.scan h
  case skip.isFalse => exact hq.skip h
  case begin.isFalse => exact hq.begin h
  case abandon.isFalse => exact hq.abandon h
  case drop.isFalse => exact hq.drop h
  case result.isFalse => exact hq.result h
  case notify.isFalse => exact hq.notify h
  case report.isFalse => exact hq.report h
  case finish.isFalse => exact hq.finish h
  case closeRetries.isFalse => exact hq.closeRetries h
  case retry.isFalse => exact hq.retry h
  case endRound.isFalse => exact hq.endRound h
  case waitStart.isFalse => exact hq.waitStart h
  case waitWake.isFalse => exact hq.waitWake h
  case finishAdapter.isFalse => exact hq.finishAdapterStep h
  case closeErrors.isFalse => exact hq.closeErrors h
  case waitReturn.isFalse => exact hq.waitReturn h
  case collectError.isFalse => exact hq.collectError h
  case collectorExit.isFalse => exact hq.collectorExit h
  case consume.isFalse => exact hq.consume h

theorem reachable_accounted (h : Reachable c Contract q) : Accounted q := by
  induction h with
  | init p => exact accounted_init c _
  | step _ hc hs ih => exact step_accounted ih hc hs

/-! ### What the accounting says -/

theorem Handling.notified_subset {i : Nat} {x : Oid} :
    ∀ {h : Handling}, x ∈ h.notified i → x ∈ h.oids
  | .notify t k, hx => by unfold Handling.notified at hx; split at hx <;> simp_all
  | .finish t .succeeded, hx => by simpa [Handling.notified] using hx
  | .idle, hx | .report _ _ _, hx | .finish _ .batchFailed, hx | .finish _ .objectFailed, hx
  | .finish _ .skipped, hx | .finish _ .beginFailed, hx | .finish _ .transferFailed, hx => by
    simp [Handling.notified] at hx

theorem Collector.notified_subset {C : Collector} {i : Nat} {x : Oid} (hx : x ∈ C.notified i) :
    x ∈ C.oids := by
  unfold Collector.notified at hx
  split at hx
  · simp [Handling.notified_subset hx]
  · cases hx

theorem succeeded_sublist (q : Queue) : q.succeeded.Sublist q.terminal :=
  (List.filter_sublist _).map _

theorem Accounted.count_keys (hq : Accounted q) (x : Oid) :
    q.keys.count x = if x ∈ q.keys then 1 else 0 := by
  split
  · exact List.count_eq_one_of_mem hq.nodup ‹_›
  · exact List.count_eq_zero_of_not_mem ‹_›

theorem Accounted.count_places (hq : Accounted q) (x : Oid) :
    q.pipeline.count x + q.terminal.count x = if x ∈ q.keys then 1 else 0 := by
  rw [← List.count_append, hq.perm.count_eq, hq.count_keys]

theorem Accounted.wait_eq_open (hq : Accounted q) :
    q.wait = (q.keys.filter (· ∉ q.terminal)).length := by
  rw [hq.wait_eq]
  refine (List.perm_iff_count.mpr fun x => ?_).length_eq
  have h := hq.count_places x
  by_cases ht : x ∈ q.terminal
  · have hf : x ∉ q.keys.filter (· ∉ q.terminal) := by simp [ht]
    have := List.count_pos_iff.mpr ht
    rw [List.count_eq_zero_of_not_mem hf]
    split at h <;> omega
  · have hf : (fun y => decide (y ∉ q.terminal)) x = true := by simpa using ht
    rw [@List.count_filter _ _ _ _ x q.keys hf, hq.count_keys]
    rw [List.count_eq_zero_of_not_mem ht] at h
    omega

theorem Accounted.pipeline_nil (hq : Accounted q) (h : q.waitPc.drained) : q.pipeline = [] :=
  List.eq_nil_of_length_eq_zero (hq.wait_eq ▸ hq.drained h)

/-- Every added oid is counted once, sent on `q.incoming` once, and is in one place or
closed out once at any time; once `Wait` has returned, every added oid has been sent and
closed out, once each, and every watcher has been sent exactly the oids that succeeded. -/
def ExactlyOnce (q : Queue) : Prop :=
  q.keys.Nodup ∧ q.wait = (q.keys.filter (· ∉ q.terminal)).length ∧
  (∀ x ∈ q.keys, (oids q.sent).count x + (oids q.adding).count x = 1 ∧
    q.pipeline.count x + q.terminal.count x = 1) ∧
  (∀ x ∉ q.keys, x ∉ q.pipeline ∧ x ∉ q.terminal) ∧
  (q.waitPc = .returned → ∀ x ∈ q.keys, (oids q.sent).count x = 1 ∧ q.terminal.count x = 1) ∧
  (q.waitPc = .returned → ∀ (i : Nat) (w : Watcher), q.watchers[i]? = some w → ∀ x,
    w.sent.count x = q.succeeded.count x ∧ q.succeeded.count x ≤ 1)

theorem exactly_once (h : Reachable c Contract q) : q.ExactlyOnce := by
  have hq := reachable_accounted h
  have hs : ∀ x ∈ q.keys, (oids q.sent).count x + (oids q.adding).count x = 1 := fun x hx =>
    (hq.sent x).trans (List.count_eq_one_of_mem hq.nodup hx)
  have hp : ∀ x ∈ q.keys, q.pipeline.count x + q.terminal.count x = 1 := fun x hx => by
    simpa [hx] using hq.count_places x
  refine ⟨hq.nodup, hq.wait_eq_open, fun x hx => ⟨hs x hx, hp x hx⟩, fun x hx => ?_,
    fun hr x hx => ?_, fun hr i w hw x => ?_⟩
  · have := hq.count_places x
    simp only [hx, if_false, Nat.add_eq_zero, List.count_eq_zero] at this
    exact this
  · have hn := hq.pipeline_nil (by simp [hr, WaitPc.drained])
    have ha := hq.closed (by simp [hr])
    simpa [hn, ha] using And.intro (hs x hx) (hp x hx)
  · have hn := hq.pipeline_nil (by simp [hr, WaitPc.drained])
    have ho : q.collector.oids = [] := (List.append_eq_nil.mp hn).2
    have hc : q.collector.notified i = [] := List.eq_nil_iff_forall_not_mem.mpr fun y hy => by
      simpa [ho] using Collector.notified_subset hy
    refine ⟨by simpa [hc] using hq.watched i w hw x, ?_⟩
    have h₁ := (succeeded_sublist q).count_le x
    have h₂ := hq.count_places x
    split at h₂ <;> omega

/-- One upload of one object, watched by one channel, through `Wait`: the second round is
the one that reads the closed `q.incoming`. -/
def basicConfig : Config := ⟨1, 100, false, .upload, 1⟩

def basicTrace : List Act :=
  let t : Transferable := ⟨"a", 1⟩
  [.add t, .send t, .receive, .dispatch, .negotiate (.ok ("basic", [⟨"a", 1, ["upload"], none⟩])),
   .scan, .scan, .begin none, .result t none, .notify, .notify, .finish, .closeRetries, .endRound,
   .waitStart, .receive, .dispatch, .negotiate (.ok ("basic", [])), .scan, .begin none,
   .closeRetries, .endRound, .waitWake, .finishAdapter, .closeErrors, .collectorExit, .waitReturn]

def basicRun : Queue :=
  let q₀ := Queue.init basicConfig (newRetryCounter (.ok none))
  (run basicConfig Contract.check q₀ basicTrace).getD q₀

theorem basicRun_exactlyOnce : basicRun.ExactlyOnce :=
  exactly_once (Reachable.run (fun _ _ => Contract.of_check) (.init (.ok none))
    (rfl : run basicConfig Contract.check (Queue.init basicConfig (newRetryCounter (.ok none)))
      basicTrace = some basicRun))

example : basicRun.waitPc = .returned ∧ basicRun.watchers.map (·.sent) = [["a"]] := by decide

end Queue

end GitLfs.Tq
