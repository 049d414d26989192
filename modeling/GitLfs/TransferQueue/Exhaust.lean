import GitLfs.TransferQueue.Retry

/-! # An oid whose every transfer fails

When every negotiation of an oid succeeds with an action for it and every transfer of it
fails with an error that can be retried, the oid goes around the retry loop until its count
reaches `MaxRetries` and is then reported once. `Exhausts` follows it through the places of
`collectBatches`.
-/

namespace GitLfs.Tq

/-- The batch `ensureAdapterBegun` is called for. -/
def Collector.beginning : Collector → Batch
  | .begin _ pending => pending
  | _ => []

/-- The environment of an oid `x` that can only fail: the response contract holds; every
`api.Batch` call on a batch holding `x` succeeds and gives `x` an action for the transfer
kind; `Begin` succeeds when `x` is about to be handed to the adapter; and every transfer of
`x` fails with a retriable error. -/
def Doomed (c : Config) (x : Oid) (q : Queue) : Act → Prop
  | .negotiate r => Contract q (.negotiate r) ∧ (x ∈ oids q.collector.negotiating →
      ∃ name objs, r = .ok (name, objs) ∧
        ∀ o ∈ objs, o.oid = x → o.error = none ∧ o.rel (transferKind c.direction) = true)
  | .begin r => x ∈ oids q.collector.beginning → r = none
  | .result t err => t.oid = x → ∃ e, err = some e ∧ e.retriable = true
  | _ => True

theorem Doomed.contract {c : Config} {x : Oid} {q : Queue} {a : Act} (h : Doomed c x q a) :
    Contract q a := by
  cases a <;> first | exact h.1 | trivial

/-- `Doomed`, decided. -/
def Doomed.check (c : Config) (x : Oid) (q : Queue) : Act → Bool
  | .negotiate r => Contract.check q (.negotiate r) &&
      (decide (x ∉ oids q.collector.negotiating) ||
        match r with
        | .ok (_, objs) => objs.all fun o =>
            o.oid != x || (o.error.isNone && o.rel (transferKind c.direction))
        | .error _ => false)
  | .begin r => decide (x ∉ oids q.collector.beginning) || r.isNone
  | .result t err => t.oid != x || match err with
    | some e => e.retriable
    | none => false
  | _ => true

theorem Doomed.of_check {c : Config} {x : Oid} {q : Queue} {a : Act}
    (h : Doomed.check c x q a = true) : Doomed c x q a := by
  cases a with
  | negotiate r =>
    simp only [Doomed.check, Bool.and_eq_true, Bool.or_eq_true, decide_eq_true_eq] at h
    refine ⟨Contract.of_check h.1, fun hx => ?_⟩
    rcases h.2 with h' | h'
    · exact absurd hx h'
    · rcases r with _ | ⟨name, objs⟩
      · cases h'
      · refine ⟨name, objs, rfl, fun o ho hox => ?_⟩
        have := List.all_eq_true.mp h' o ho
        simpa [hox] using this
  | begin r =>
    simp only [Doomed.check, Bool.or_eq_true, decide_eq_true_eq, Option.isNone_iff_eq_none] at h
    exact fun hx => h.resolve_left (not_not.mpr hx)
  | result t err =>
    simp only [Doomed.check, Bool.or_eq_true, bne_iff_ne, ne_eq] at h
    refine fun hx => ?_
    rcases h with h | h
    · exact absurd hx h
    · cases err with
      | none => cases h
      | some e => exact ⟨e, rfl, h⟩
  | _ => trivial

/-- How `handleTransferResult` may hold `x`: never about to notify the watchers of it, and
about to report it only once its budget is `spent`. -/
def Handling.spares (x : Oid) (spent : Prop) : Handling → Prop
  | .idle => True
  | .notify t _ => t.oid ≠ x
  | .report t _ d => t.oid = x → d = true ∧ spent
  | .finish t o => t.oid = x → o = .transferFailed ∧ spent

def Feeder.spares (x : Oid) (spent : Prop) : Feeder → Prop
  | .running _ h => h.spares x spent
  | .closed => True

/-- How `collectBatches` may hold `x`: never in a failed batch, with an object error or
without an action, or in a batch whose `Begin` failed. -/
def Collector.spares (kind : String) (x : Oid) (spent : Prop) : Collector → Prop
  | .requeue _ _ rest _ => x ∉ Tq.oids rest
  | .scan _ objs _ => ∀ o ∈ objs, o.oid = x → o.error = none ∧ o.rel kind = true
  | .skip _ y objs _ => y ≠ x ∧ ∀ o ∈ objs, o.oid = x → o.error = none ∧ o.rel kind = true
  | .abandon _ _ pending => x ∉ Tq.oids pending
  | .drop _ pending => x ∉ Tq.oids pending
  | .collect _ _ r => r.feeder.spares x spent
  | _ => True

theorem Feeder.spares_unspent {f : Feeder} {x : Oid} {S S' : Prop} (hS : ¬S)
    (h : f.spares x S) : f.spares x S' := by
  rcases f with ⟨_, _ | _ | _ | _⟩ | _ <;>
    simp only [Feeder.spares, Handling.spares] at h ⊢ <;> first | trivial | exact h | skip
  all_goals exact fun hx => absurd (h hx).2 hS

namespace Queue

variable {c : Config} {x : Oid} {q q' : Queue} {a : Act}

/-- `x` has used up its retries, in a run that is not a dry run. -/
def Spent (c : Config) (x : Oid) (q : Queue) : Prop :=
  (q.rc.count x : Int) = q.rc.maxRetries ∧ c.dryRun = false

structure Exhausts (c : Config) (x : Oid) (q : Queue) : Prop where
  outcome : ∀ o, (x, o) ∈ q.outcomes → o = .transferFailed ∧ q.Spent c x
  places : q.collector.spares (transferKind c.direction) x (q.Spent c x)
  dispatched : c.dryRun = false →
    q.dispatched.count x + q.collector.toDispatch.count x = q.negotiated.count x

theorem exhausts_init (c : Config) (x : Oid) (parsed : Except String (Option Int)) :
    Exhausts c x (Queue.init c (newRetryCounter parsed)) :=
  ⟨fun _ h => by simp [Queue.init] at h, trivial,
    fun _ => by simp [Queue.init, negotiated, Collector.toDispatch]⟩

theorem Exhausts.crash (he : Exhausts c x q) : Exhausts c x q.crash := ⟨he.1, he.2, he.3⟩

theorem Exhausts.frame (he : Exhausts c x q) (ho : q'.outcomes = q.outcomes)
    (hrc : q'.rc = q.rc) (hd : q'.dispatched = q.dispatched) (hc : q'.calls = q.calls)
    (hp : q.collector.spares (transferKind c.direction) x (q.Spent c x) →
      q'.collector.spares (transferKind c.direction) x (q.Spent c x))
    (ht : q'.collector.toDispatch.count x = q.collector.toDispatch.count x) : Exhausts c x q' where
  outcome o h := by rw [Spent, hrc]; exact he.outcome o (ho ▸ h)
  places := by rw [Spent, hrc]; exact hp he.places
  dispatched h := by rw [hd, ht, negotiated, hc]; exact he.dispatched h

theorem Exhausts.of_sendError {e : QueueError} {C : Collector} (he : Exhausts c x q)
    (h : q.sendError e (fun q => { q with collector := C }) = some q')
    (hp : q.collector.spares (transferKind c.direction) x (q.Spent c x) →
      C.spares (transferKind c.direction) x (q.Spent c x))
    (ht : C.toDispatch.count x = q.collector.toDispatch.count x) : Exhausts c x q' := by
  rcases sendError_cases h with rfl | ⟨-, -, rfl⟩
  · exact he.crash
  · exact he.frame rfl rfl rfl rfl hp ht

theorem Exhausts.of_done {y : Oid} {o : Outcome} {C : Collector} (he : Exhausts c x q)
    (h : q.done y o (fun q => { q with collector := C }) = some q')
    (hy : y = x → o = .transferFailed ∧ q.Spent c x)
    (hp : q.collector.spares (transferKind c.direction) x (q.Spent c x) →
      C.spares (transferKind c.direction) x (q.Spent c x))
    (ht : C.toDispatch.count x = q.collector.toDispatch.count x) : Exhausts c x q' := by
  rcases done_cases h with rfl | ⟨-, rfl⟩
  · exact he.crash
  · refine ⟨fun o' h' => ?_, hp he.places, fun hd => ?_⟩
    · simp only [List.mem_append, List.mem_singleton, Prod.mk.injEq] at h'
      rcases h' with h' | ⟨rfl, rfl⟩
      · exact he.outcome o' h'
      · exact hy rfl
    · show q.dispatched.count x + C.toDispatch.count x = q.negotiated.count x
      rw [ht]; exact he.dispatched hd

/-! ### Each action keeps `x` on its way to a spent budget -/

theorem Exhausts.add {t : Transferable} (he : Exhausts c x q) (h : q.add t = some q') :
    Exhausts c x q' := by
  obtain ⟨-, ⟨-, rfl⟩ | ⟨-, rfl⟩⟩ := add_spec h
  · exact he
  · exact he.frame rfl rfl rfl rfl id rfl

theorem Exhausts.send {t : Transferable} (he : Exhausts c x q) (h : q.send c t = some q') :
    Exhausts c x q' := by
  obtain ⟨-, rfl | ⟨-, rfl⟩⟩ := send_spec h
  · exact he.crash
  · exact he.frame rfl rfl rfl rfl id rfl

theorem Exhausts.receive (he : Exhausts c x q) (h : q.receive c = some q') :
    Exhausts c x q' := by
  obtain ⟨batch, hc, -, ⟨t, rest, -, rfl⟩ | ⟨-, -, rfl⟩⟩ := receive_spec h <;>
    exact he.frame rfl rfl rfl rfl (fun _ => trivial) (by simp [Collector.toDispatch, hc])

theorem Exhausts.dispatch (he : Exhausts c x q) (h : q.dispatch c = some q') :
    Exhausts c x q' := by
  obtain ⟨closing, batch, hc, -, rfl⟩ := dispatch_spec h
  exact he.frame rfl rfl rfl rfl (fun _ => trivial) (by simp [Collector.toDispatch, hc])

theorem Exhausts.negotiate {r : Except Err (String × List ObjectResource)}
    (he : Exhausts c x q) (hr : Doomed c x q (.negotiate r)) (h : q.negotiate r = some q') :
    Exhausts c x q' := by
  obtain ⟨closing, batch, hc, ⟨e, rfl, rfl⟩ | ⟨name, objs, rfl, rfl⟩⟩ := negotiate_spec h
  · have hx : x ∉ oids batch := fun hx => by
      obtain ⟨_, _, he', -⟩ := hr.2 (by simpa [Collector.negotiating, hc] using hx)
      cases he'
    refine ⟨he.outcome, hx, fun hd => ?_⟩
    have := he.dispatched hd
    simp [negotiated, Collector.toDispatch, hc, List.count_eq_zero_of_not_mem hx] at this ⊢
    exact this
  · obtain ⟨a, p, e, hu⟩ := q.useAdapter_eq name
    have hp : ∀ y, (objs.map (·.oid)).count y = (oids batch).count y := fun y => by
      have := hr.1
      simp only [Contract, Collector.negotiating, hc] at this
      exact this.count_eq y
    refine ⟨by simpa [hu] using he.outcome, fun o ho hox => ?_, fun hd => ?_⟩
    · have hx : x ∈ oids batch := by
        rw [← List.count_pos_iff, ← hp]
        exact List.count_pos_iff.mpr (List.mem_map.mpr ⟨o, ho, hox⟩)
      obtain ⟨_, _, he', hok⟩ := hr.2 (by simpa [Collector.negotiating, hc] using hx)
      cases he'
      exact hok o ho hox
    · have h₁ := he.dispatched hd
      have h₂ := hp x
      simp [negotiated, Collector.toDispatch, hc, hu] at h₁ h₂ ⊢; omega

theorem Exhausts.requeue (he : Exhausts c x q) (h : q.requeue = some q') : Exhausts c x q' := by
  obtain ⟨closing, e, next, ⟨t, rest, hc, ⟨-, rfl⟩ | ⟨-, hd⟩⟩ | ⟨hc, rfl⟩⟩ := requeue_spec h
  · have hx : x ∉ oids (t :: rest) := by simpa [Collector.spares, hc] using he.places
    have ht : t.oid ≠ x := fun h' => hx (by simp [h'])
    refine ⟨fun o ho => ?_, fun h' => hx (by simp [h']), fun hd => ?_⟩
    · simpa [Spent, ht] using he.outcome o ho
    · simpa [negotiated, Collector.toDispatch, hc] using he.dispatched hd
  · have hx : x ∉ oids (t :: rest) := by simpa [Collector.spares, hc] using he.places
    exact he.of_done hd (fun h' => absurd (by simp [h']) hx)
      (fun _ h' => hx (by simp [h'])) (by simp [Collector.toDispatch, hc])
  · exact he.frame rfl rfl rfl rfl (fun _ => trivial) (by simp [Collector.toDispatch, hc])

theorem Exhausts.forward (he : Exhausts c x q) (h : q.forward = some q') : Exhausts c x q' := by
  obtain ⟨closing, e, next, hc, hs⟩ := forward_spec h
  refine he.of_sendError hs ?_ (by rw [toDispatch_endRound, hc]; rfl)
  unfold Tq.endRound; split <;> exact fun _ => trivial

theorem Exhausts.scan (he : Exhausts c x q) (h : q.scan c = some q') : Exhausts c x q' := by
  obtain ⟨closing, tt, ⟨objs, hc, rfl, rfl⟩ | ⟨o, objs, hc, ho⟩⟩ := scan_spec h
  · exact he.frame rfl rfl rfl rfl (fun _ => trivial) (by simp [Collector.toDispatch, hc])
  have hp : ∀ o' ∈ o :: objs, o'.oid = x →
      o'.error = none ∧ o'.rel (transferKind c.direction) = true := by
    simpa [Collector.spares, hc] using he.places
  have hrest : ∀ o' ∈ objs, o'.oid = x →
      o'.error = none ∧ o'.rel (transferKind c.direction) = true :=
    fun o' h' => hp o' (List.mem_cons_of_mem _ h')
  have hd : o.oid = x → (∀ e, dispose (transferKind c.direction) q.lookup o ≠ .fail e) ∧
      dispose (transferKind c.direction) q.lookup o ≠ .skip := fun hx => by
    obtain ⟨h₁, h₂⟩ := hp o (List.mem_cons_self _ _) hx
    unfold dispose
    simp only [h₁, h₂, if_true]
    split <;> simp
  rcases ho with ⟨e, hf, hs⟩ | ⟨hk, hdn⟩ | ⟨t, ht, rfl⟩ | ⟨-, rfl⟩
  · have hx : o.oid ≠ x := fun hx => (hd hx).1 e hf
    exact he.of_sendError hs (fun _ => ⟨hx, hrest⟩) (by simp [Collector.toDispatch, hc])
  · have hx : o.oid ≠ x := fun hx => (hd hx).2 hk
    exact he.of_done hdn (fun h' => absurd h' hx) (fun _ => hrest)
      (by simp [Collector.toDispatch, hc, List.count_cons, hx])
  · have := q.lookup_oid (dispose_transfer ht)
    exact he.frame rfl rfl rfl rfl (fun _ => hrest)
      (by simp [Collector.toDispatch, hc, this, List.count_cons]; omega)
  · exact he.crash

theorem Exhausts.skip (he : Exhausts c x q) (h : q.skip = some q') : Exhausts c x q' := by
  obtain ⟨closing, y, objs, tt, hc, hd⟩ := skip_spec h
  have hp : y ≠ x ∧ ∀ o ∈ objs, o.oid = x →
      o.error = none ∧ o.rel (transferKind c.direction) = true := by
    simpa [Collector.spares, hc] using he.places
  exact he.of_done hd (fun h' => absurd h' hp.1) (fun _ => hp.2)
    (by simp [Collector.toDispatch, hc, List.count_cons, hp.1])

theorem Exhausts.begin {r : Option Err} (he : Exhausts c x q) (hr : Doomed c x q (.begin r))
    (h : q.begin c r = some q') : Exhausts c x q' := by
  have hs : ∀ q₀ : Queue, q₀.outcomes = q.outcomes → q₀.rc = q.rc → q₀.calls = q.calls →
      q₀.dispatched = q.dispatched → ∀ closing pending, q.collector = .begin closing pending →
      Exhausts c x (q₀.spawn c closing pending) := by
    intro q₀ h₁ h₂ h₃ h₄ closing pending hc
    refine ⟨fun o ho => ?_, trivial, fun hd => ?_⟩
    · simpa [Spent, spawn, h₂] using he.outcome o (by simpa [spawn, h₁] using ho)
    · have := he.dispatched hd
      simp [negotiated, Collector.toDispatch, spawn, hc, hd, h₃, h₄] at this ⊢
      exact this
  obtain ⟨closing, pending, hc, ⟨-, rfl⟩ | ⟨-, -, rfl⟩ | ⟨-, -, -, rfl⟩ | ⟨e, -, -, rfl, rfl⟩⟩ :=
    begin_spec h
  · exact hs q rfl rfl rfl rfl _ _ hc
  · exact he.crash
  · exact hs { q with adapterInProgress := true, begun := q.begun + 1 } rfl rfl rfl rfl _ _ hc
  · have hx : x ∉ oids pending := fun hx => by
      cases hr (by simpa [Collector.beginning, hc] using hx)
    exact he.frame rfl rfl rfl rfl (fun _ => hx)
      (by simp [Collector.toDispatch, hc, List.count_eq_zero_of_not_mem hx])

theorem Exhausts.abandon (he : Exhausts c x q) (h : q.abandon = some q') : Exhausts c x q' := by
  obtain ⟨closing, e, pending, hc, hs⟩ := abandon_spec h
  exact he.of_sendError hs (by simp [Collector.spares, hc])
    (by simp [Collector.toDispatch, hc])

theorem Exhausts.drop (he : Exhausts c x q) (h : q.drop = some q') : Exhausts c x q' := by
  obtain ⟨closing, ⟨t, rest, hc, hd⟩ | ⟨hc, rfl⟩⟩ := drop_spec h
  · have hx : x ∉ oids (t :: rest) := by simpa [Collector.spares, hc] using he.places
    exact he.of_done hd (fun h' => absurd (by simp [h']) hx)
      (fun _ h' => hx (by simp [h'])) (by simp [Collector.toDispatch, hc])
  · refine he.frame rfl rfl rfl rfl ?_ (by rw [toDispatch_endRound, hc]; rfl)
    unfold Tq.endRound; split <;> exact fun _ => trivial

theorem Exhausts.result {t : Transferable} {err : Option Err} (hq : Accounted q)
    (hb : Budget q) (he : Exhausts c x q) (hr : Doomed c x q (.result t err))
    (h : q.result c t err = some q') : Exhausts c x q' := by
  obtain ⟨closing, next, retries, pending, hc, hm, hdry, hres⟩ := result_spec h
  have hl : (q.lookup t.oid).isSome :=
    q.lookup_isSome (hq.mem_keys (by simp [pipeline, hc, mem_oids_of_mem hm]))
  have ht : ∀ r, (Collector.collect closing next r).toDispatch.count x =
      q.collector.toDispatch.count x := fun _ => by simp [Collector.toDispatch, hc]
  rcases hres with ⟨rfl, rfl⟩ | ⟨e, rfl, ⟨-, ⟨t', -, rfl⟩ | ⟨hn, rfl⟩⟩ | ⟨hy, rfl⟩⟩
  · have hx : t.oid ≠ x := fun hx => by obtain ⟨e, he', -⟩ := hr hx; cases he'
    exact he.frame rfl rfl rfl rfl (fun _ => hx) (ht _)
  · exact he.frame rfl rfl rfl rfl (fun _ => trivial) (ht _)
  · simp [hn] at hl
  · refine he.frame rfl rfl rfl rfl (fun _ hx => ⟨rfl, ?_, ?_⟩) (ht _)
    · obtain ⟨e', he', hre⟩ := hr hx
      cases he'
      have := hb.bound x
      have hlt : ¬ (q.rc.count t.oid : Int) < q.rc.maxRetries := fun hlt =>
        absurd ((canRetryObject_iff _ _ _).mpr ⟨hlt, hre⟩) (by simp [hy])
      rw [hx] at hlt
      exact le_antisymm this (not_lt.mp hlt)
    · simpa using hdry

theorem Exhausts.notify (he : Exhausts c x q) (h : q.notify c = some q') : Exhausts c x q' := by
  obtain ⟨closing, next, retries, pending, t, k, hc, ⟨-, rfl⟩ | ⟨w, -, -, rfl⟩ | ⟨w, -, -, -, rfl⟩⟩ :=
    notify_spec h
  all_goals first | exact he.crash | skip
  all_goals
    have hx : t.oid ≠ x := by
      simpa [Collector.spares, Feeder.spares, Handling.spares, hc] using he.places
  · exact he.frame rfl rfl rfl rfl (fun _ h' => absurd h' hx)
      (by simp [Collector.toDispatch, setResults, hc])
  · exact he.frame rfl rfl rfl rfl (fun _ => hx) (by simp [Collector.toDispatch, setResults, hc])

theorem Exhausts.report (he : Exhausts c x q) (h : q.report = some q') : Exhausts c x q' := by
  obtain ⟨closing, next, retries, pending, t, e, d, hc, hs⟩ := report_spec h
  have hp : t.oid = x → d = true ∧ q.Spent c x := by
    simpa [Collector.spares, Feeder.spares, Handling.spares, hc] using he.places
  refine he.of_sendError hs (fun _ => ?_) (by simp [Collector.toDispatch, hc])
  cases d
  · trivial
  · exact fun hx => ⟨rfl, (hp hx).2⟩

theorem Exhausts.finish (he : Exhausts c x q) (h : q.finish = some q') : Exhausts c x q' := by
  obtain ⟨closing, next, retries, pending, t, o, hc, hd⟩ := finish_spec h
  have hp : t.oid = x → o = .transferFailed ∧ q.Spent c x := by
    simpa [Collector.spares, Feeder.spares, Handling.spares, hc] using he.places
  exact he.of_done hd hp (fun _ => trivial) (by simp [Collector.toDispatch, hc])

theorem Exhausts.closeRetries (he : Exhausts c x q) (h : q.closeRetries = some q') :
    Exhausts c x q' := by
  obtain ⟨closing, next, retries, hc, rfl⟩ := closeRetries_spec h
  exact he.frame rfl rfl rfl rfl (fun _ => trivial) (by simp [Collector.toDispatch, setResults, hc])

theorem Exhausts.retry (hb : Budget q) (he : Exhausts c x q) (h : q.retry = some q') :
    Exhausts c x q' := by
  obtain ⟨closing, next, t, rest, f, hc, rfl⟩ := retry_spec h
  have hp : f.spares x (q.Spent c x) := by simpa [Collector.spares, hc] using he.places
  have hd : ∀ hd, _ := fun hd => by simpa [negotiated, Collector.toDispatch, hc] using he.dispatched hd
  by_cases hx : t.oid = x
  · have hS : ¬ q.Spent c x := fun hs => by
      have := hb.retrying t (by simp [Collector.retrying, hc])
      rw [hx, hs.1] at this
      exact lt_irrefl _ this
    exact ⟨fun o ho => absurd (he.outcome o ho).2 hS, Feeder.spares_unspent hS hp,
      fun h' => by simpa [negotiated, Collector.toDispatch, setResults] using hd h'⟩
  · refine ⟨fun o ho => ?_, ?_, fun h' => by simpa [negotiated, Collector.toDispatch, setResults] using hd h'⟩
    · simpa [Spent, hx] using he.outcome o ho
    · simpa [Spent, setResults, Collector.spares, hx] using hp

theorem Exhausts.endRound (he : Exhausts c x q) (h : q.endRound = some q') : Exhausts c x q' := by
  obtain ⟨closing, next, hc, rfl⟩ := endRound_spec h
  refine he.frame rfl rfl rfl rfl ?_ (by rw [toDispatch_endRound, hc]; rfl)
  unfold Tq.endRound; split <;> exact fun _ => trivial

theorem step_exhausts (hq : Accounted q) (hb : Budget q) (he : Exhausts c x q)
    (hd : Doomed c x q a) (h : step c q a = some q') : Exhausts c x q' := by
  have hf : ∀ {q' : Queue}, q'.outcomes = q.outcomes → q'.rc = q.rc → q'.dispatched = q.dispatched →
      q'.calls = q.calls → q'.collector = q.collector → Exhausts c x q' := fun h₁ h₂ h₃ h₄ h₅ =>
    he.frame h₁ h₂ h₃ h₄ (by rw [h₅]; exact id) (by rw [h₅])
  cases a <;> simp only [step] at h <;> split at h <;> first | cases h | skip
  case add.isFalse => exact he.add h
  case send.isFalse => exact he.send h
  case receive.isFalse => exact he.receive h
  case dispatch.isFalse => exact he.dispatch h
  case negotiate.isFalse => exact he.negotiate hd h
  case requeue.isFalse => exact he.requeue h
  case forward.isFalse => exact he.forward h
  case scan.isFalse => exact he.scan h
  case skip.isFalse => exact he.skip h
  case begin.isFalse => exact he.begin hd h
  case abandon.isFalse => exact he.abandon h
  case drop.isFalse => exact he.drop h
  case result.isFalse => exact he.result hq hb hd h
  case notify.isFalse => exact he.notify h
  case report.isFalse => exact he.report h
  case finish.isFalse => exact he.finish h
  case closeRetries.isFalse => exact he.closeRetries h
  case retry.isFalse => exact he.retry hb h
  case endRound.isFalse => exact he.endRound h
  case waitStart.isFalse =>
    obtain ⟨-, -, rfl | rfl⟩ := waitStart_spec h
    exacts [he.crash, hf rfl rfl rfl rfl rfl]
  case waitWake.isFalse =>
    obtain ⟨-, -, rfl⟩ := waitWake_spec h
    exact hf rfl rfl rfl rfl rfl
  case finishAdapter.isFalse =>
    obtain ⟨-, rfl⟩ := finishAdapterStep_spec h
    obtain ⟨_, _, _, hu⟩ := q.finishAdapter_eq
    rw [hu]
    exact hf rfl rfl rfl rfl rfl
  case closeErrors.isFalse =>
    obtain ⟨-, rfl | ⟨-, rfl⟩⟩ := closeErrors_spec h
    exacts [he.crash, hf rfl rfl rfl rfl rfl]
  case waitReturn.isFalse =>
    obtain ⟨-, -, rfl⟩ := waitReturn_spec h
    exact hf rfl rfl rfl rfl rfl
  case collectError.isFalse =>
    obtain ⟨_, -, rfl⟩ := collectError_spec h
    exact hf rfl rfl rfl rfl rfl
  case collectorExit.isFalse =>
    obtain ⟨-, -, rfl⟩ := collectorExit_spec h
    exact hf rfl rfl rfl rfl rfl
  case consume.isFalse =>
    obtain ⟨_, _, _, -, -, rfl⟩ := consume_spec h
    exact hf rfl rfl rfl rfl rfl

theorem reachable_exhausts (h : Reachable c (Doomed c x) q) : Exhausts c x q := by
  induction h with
  | init p => exact exhausts_init c x p
  | step hq ha hs ih =>
    have hq' := hq.mono fun _ _ => Doomed.contract
    exact step_exhausts (reachable_accounted hq') (reachable_budget hq') ih ha hs

/-! ### The budget of every oid -/

theorem count_failed_of_reported {x : Oid} :
    ∀ {l : List (Oid × Outcome)}, (∀ o, (x, o) ∈ l → o.reported = true) →
      ((l.filter (·.2.reported)).map (·.1)).count x = (l.map (·.1)).count x
  | [], _ => rfl
  | (y, o) :: l, h => by
    have ih := count_failed_of_reported fun o' h' => h o' (List.mem_cons_of_mem _ h')
    by_cases hy : y = x
    · subst hy
      simp [List.filter_cons, h o (List.mem_cons_self _ _), ih]
    · by_cases ho : o.reported <;> simp [List.filter_cons, ho, hy, ih, List.count_cons]

/-- One `Add`, then `Wait`, with the default bound of one retry: both negotiations succeed
and both transfers fail with a retriable error. -/
def doomedTrace : List Act :=
  let t : Transferable := ⟨"a", 1⟩
  let o : ObjectResource := ⟨"a", 1, ["upload"], none⟩
  let e : Err := ⟨true, "timeout"⟩
  [.add t, .send t, .receive, .waitStart, .receive, .dispatch, .negotiate (.ok ("basic", [o])),
   .scan, .scan, .begin none, .result t (some e), .closeRetries, .retry, .endRound, .dispatch,
   .negotiate (.ok ("basic", [o])), .scan, .scan, .begin none, .result t (some e), .report,
   .collectError, .finish, .closeRetries, .endRound, .waitWake, .finishAdapter, .closeErrors,
   .collectorExit, .waitReturn]

def doomedRun : Queue :=
  let q₀ := Queue.init defaultConfig (newRetryCounter (.ok none))
  (run defaultConfig (Doomed.check defaultConfig "a") q₀ doomedTrace).getD q₀

example : doomedRun.dispatched = ["a", "a"] ∧ doomedRun.rc.maxRetries = 1 := by decide

end Queue

end GitLfs.Tq
