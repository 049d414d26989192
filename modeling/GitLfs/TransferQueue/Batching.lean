import GitLfs.TransferQueue.Retry

/-! # How `collectBatches` cuts the added objects into batches

In a run where every `api.Batch` call succeeds and the adapter reports every transfer done,
no object is carried into a next batch, so each round fills its batch from `q.incoming`
alone: `batchSize` objects while `incoming` is open, and what is left once it is closed.
After the last full batch the loop goes round once more to read the close, so when
`batchSize` divides the number of objects that round passes an empty batch to `api.Batch`.
-/

namespace GitLfs.Tq

/-- A run without failures: `api.Batch` succeeds and every transfer succeeds. -/
def smooth : Act → Bool
  | .negotiate (.error _) => false
  | .result _ (some _) => false
  | _ => true

def Smooth (_ : Queue) (a : Act) : Prop := smooth a = true

/-- The round's batch while it is filled and negotiated. -/
def Collector.current : Collector → Batch
  | .fill _ b | .negotiate _ b => b
  | _ => []

/-- Whether `collectBatches` has read the close of `q.incoming`; it had when it exited. -/
def Collector.closing : Collector → Bool
  | .fill c _ | .negotiate c _ | .requeue c _ _ _ | .forward c _ _ | .scan c _ _
  | .skip c _ _ _ | .begin c _ | .abandon c _ _ | .drop c _ | .collect c _ _ => c
  | .exited => true

/-- Whether the round has not called `api.Batch` yet. -/
def Collector.filling : Collector → Bool
  | .fill .. | .negotiate .. => true
  | _ => false

/-- Nothing is on its way to a next batch: no batch error is being handled, and no
transfer is to be retried. -/
def Collector.quiet : Collector → Bool
  | .requeue .. | .forward .. => false
  | .collect _ next r => next.isEmpty && r.retries.isEmpty
  | _ => true

/-- The round's batch against `batchSize`, and its order once sorted. -/
def Collector.sized (B : Nat) : Collector → Prop
  | .fill false b => b.length ≤ B
  | .fill true b => b.length < B
  | .negotiate false b => b.length = B ∧ b.Sorted fun s t => t.size ≤ s.size
  | .negotiate true b => b.length < B ∧ b.Sorted fun s t => t.size ≤ s.size
  | _ => True

/-- A step of `collectBatches` inside a round that has called `api.Batch`. -/
def Collector.Within (C C' : Collector) : Prop :=
  C.filling = false ∧ C'.filling = false ∧ C'.closing = C.closing ∧ C'.quiet = true

theorem Collector.current_of_filling {C : Collector} (h : C.filling = false) : C.current = [] := by
  cases C <;> first | rfl | cases h

theorem Collector.sized_of_filling {C : Collector} (B : Nat) (h : C.filling = false) :
    C.sized B := by
  cases C <;> trivial

theorem length_flatten_of_full {l : List Batch} {b : Batch} {B : Nat}
    (hl : l.getLast? = some b) (hf : ∀ x ∈ l.dropLast, x.length = B) :
    l.flatten.length = B * (l.length - 1) + b.length := by
  have hd : ∀ d : List Batch, (∀ x ∈ d, x.length = B) → d.flatten.length = B * d.length := by
    intro d
    induction d with
    | nil => simp
    | cons x d ih =>
      intro h
      simp only [List.flatten_cons, List.length_append, List.length_cons, Nat.mul_succ,
        h x (List.mem_cons_self _ _), ih fun y hy => h y (List.mem_cons_of_mem _ hy)]
      exact Nat.add_comm _ _
  rw [← List.dropLast_append_getLast? b hl, List.flatten_append, List.length_append, hd _ hf]
  simp

theorem forall_mem_of_getLast? {l : List Batch} {P : Batch → Prop}
    (hd : ∀ x ∈ l.dropLast, P x) (hl : ∀ x ∈ l.getLast?, P x) : ∀ x ∈ l, P x := by
  intro x hx
  cases h : l.getLast? with
  | none => simp_all [List.getLast?_eq_none_iff]
  | some b =>
    rw [← List.dropLast_append_getLast? b h, List.mem_append, List.mem_singleton] at hx
    rcases hx with hx | rfl
    exacts [hd x hx, hl _ h]

namespace Queue

variable {c : Config} {q q' : Queue} {a : Act}

/-- The batches of a run without failures. Every object sent on `incoming` is in exactly
one place: a batch passed to `api.Batch`, the round's batch, or the channel. Every batch
before the close is full and sorted; the round that reads the close passes fewer than
`batchSize` objects, and is the last. -/
structure Shaped (c : Config) (q : Queue) : Prop where
  keys : q.keys.Perm (oids q.sent ++ oids q.adding)
  nodup : q.keys.Nodup
  flow : (q.calls.flatten ++ q.collector.current ++ q.incoming).Perm q.sent
  closed : q.incomingClosed = true → q.adding = [] ∧ q.waitPc ≠ .idle
  closing : q.collector.closing = true → q.incomingClosed = true ∧ q.incoming = []
  quiet : q.collector.quiet = true
  sized : q.collector.sized c.batchSize
  sorted : ∀ b ∈ q.calls, b.Sorted fun s t => t.size ≤ s.size
  full : ∀ b ∈ q.calls.dropLast, b.length = c.batchSize
  last : q.collector.filling = true ∨ q.collector.closing = false →
    ∀ b ∈ q.calls.getLast?, b.length = c.batchSize
  short : q.collector.filling = false → q.collector.closing = true →
    ∃ b, q.calls.getLast? = some b ∧ b.length < c.batchSize

theorem shaped_init (c : Config) (rc : RetryCounter) : Shaped c (Queue.init c rc) where
  keys := by simp [Queue.init, keys]
  nodup := by simp [Queue.init, keys]
  flow := by simp [Queue.init, Collector.current]
  closed := by simp [Queue.init]
  closing := by simp [Queue.init, Collector.closing]
  quiet := rfl
  sized := Nat.zero_le _
  sorted := by simp [Queue.init]
  full := by simp [Queue.init]
  last := by simp [Queue.init]
  short := by simp [Queue.init, Collector.filling]

theorem Shaped.crash (hs : Shaped c q) : Shaped c q.crash :=
  ⟨hs.1, hs.2, hs.3, hs.4, hs.5, hs.6, hs.7, hs.8, hs.9, hs.10, hs.11⟩

theorem Shaped.frame (hs : Shaped c q) (hk : q'.transferables = q.transferables)
    (ha : q'.adding = q.adding) (hse : q'.sent = q.sent) (hi : q'.incoming = q.incoming)
    (hic : q'.incomingClosed = q.incomingClosed) (hw : q.waitPc ≠ .idle → q'.waitPc ≠ .idle)
    (hca : q'.calls = q.calls) (hC : q'.collector = q.collector) : Shaped c q' where
  keys := by rw [Queue.keys, hk, hse, ha]; exact hs.keys
  nodup := by rw [Queue.keys, hk]; exact hs.nodup
  flow := by rw [hca, hC, hi, hse]; exact hs.flow
  closed h := by
    obtain ⟨h₁, h₂⟩ := hs.closed (hic ▸ h)
    exact ⟨ha ▸ h₁, hw h₂⟩
  closing h := by rw [hic, hi]; exact hs.closing (hC ▸ h)
  quiet := hC ▸ hs.quiet
  sized := hC ▸ hs.sized
  sorted := hca ▸ hs.sorted
  full := hca ▸ hs.full
  last := hca ▸ hC ▸ hs.last
  short := hca ▸ hC ▸ hs.short

theorem Shaped.move {C : Collector} (hs : Shaped c q) (hm : q.collector.Within C) :
    Shaped c { q with collector := C } where
  keys := hs.keys
  nodup := hs.nodup
  flow := by
    simpa [Collector.current_of_filling hm.1, Collector.current_of_filling hm.2.1] using hs.flow
  closed := hs.closed
  closing h := hs.closing (hm.2.2.1 ▸ h)
  quiet := hm.2.2.2
  sized := Collector.sized_of_filling _ hm.2.1
  sorted := hs.sorted
  full := hs.full
  last h := hs.last (by rw [hm.1, ← hm.2.2.1]; simpa [hm.2.1] using h)
  short _ h := hs.short hm.1 (hm.2.2.1 ▸ h)

theorem Shaped.of_sendError {e : QueueError} {C : Collector} (hs : Shaped c q)
    (h : q.sendError e (fun q => { q with collector := C }) = some q')
    (hm : q.collector.Within C) : Shaped c q' := by
  rcases sendError_cases h with rfl | ⟨-, -, rfl⟩
  · exact hs.crash
  · exact (hs.frame rfl rfl rfl rfl rfl id rfl rfl : Shaped c { q with holding := some e }).move hm

theorem Shaped.of_done {y : Oid} {o : Outcome} {C : Collector} (hs : Shaped c q)
    (h : q.done y o (fun q => { q with collector := C }) = some q')
    (hm : q.collector.Within C) : Shaped c q' := by
  rcases done_cases h with rfl | ⟨-, rfl⟩
  · exact hs.crash
  · exact (hs.frame rfl rfl rfl rfl rfl id rfl rfl :
      Shaped c { q with wait := q.wait - 1, outcomes := q.outcomes ++ [(y, o)] }).move hm

theorem Shaped.endRound {closing : Bool} (hs : Shaped c q) (hf : q.collector.filling = false)
    (hc : q.collector.closing = closing) :
    Shaped c { q with collector := Tq.endRound closing [] } := by
  have hflow : (q.calls.flatten ++ q.incoming).Perm q.sent := by
    simpa [Collector.current_of_filling hf] using hs.flow
  cases closing
  · exact ⟨hs.keys, hs.nodup, by simpa [Tq.endRound, Collector.current] using hflow, hs.closed,
      nofun, rfl, Nat.zero_le _, hs.sorted, hs.full, fun _ => hs.last (.inr hc), nofun⟩
  · exact ⟨hs.keys, hs.nodup, by simpa [Tq.endRound, Collector.current] using hflow, hs.closed,
      fun _ => hs.closing hc, rfl, trivial, hs.sorted, hs.full,
      fun h => by simp [Tq.endRound, Collector.filling, Collector.closing] at h,
      fun _ _ => hs.short hf hc⟩

/-! ### Each action keeps the batches' shape -/

theorem Shaped.add {t : Transferable} (hs : Shaped c q) (h : q.add t = some q') :
    Shaped c q' := by
  obtain ⟨hw, ⟨-, rfl⟩ | ⟨ht, rfl⟩⟩ := add_spec h
  · exact hs
  · have hic : q.incomingClosed = false := by
      cases hi : q.incomingClosed
      · rfl
      · exact absurd hw (hs.closed hi).2
    refine ⟨?_, ?_, hs.flow, by simp [hic], fun h => by simpa [hic] using hs.closing h, hs.quiet,
      hs.sized, hs.sorted, hs.full, hs.last, hs.short⟩
    · simpa [Queue.keys] using hs.keys.append_right [t.oid]
    · simpa [Queue.keys, List.nodup_append] using And.intro hs.nodup ht

theorem Shaped.send {t : Transferable} (hs : Shaped c q) (h : q.send c t = some q') :
    Shaped c q' := by
  obtain ⟨ht, rfl | ⟨hic, rfl⟩⟩ := send_spec h
  · exact hs.crash
  · refine ⟨?_, hs.nodup, ?_, by simp [hic], fun h => by simpa [hic] using hs.closing h, hs.quiet,
      hs.sized, hs.sorted, hs.full, hs.last, hs.short⟩
    · simpa [Queue.keys] using hs.keys.trans ((oids_perm_erase ht).append_left (oids q.sent))
    · simpa using hs.flow.append_right [t]

theorem Shaped.receive (hs : Shaped c q) (h : q.receive c = some q') : Shaped c q' := by
  obtain ⟨batch, hc, hf, ⟨t, rest, hi, rfl⟩ | ⟨hi, hic, rfl⟩⟩ := receive_spec h
  · have hlt : batch.length < c.batchSize := by simpa [Batch.isFull] using hf
    refine ⟨hs.keys, hs.nodup, ?_, hs.closed, nofun, rfl, ?_, hs.sorted, hs.full,
      fun _ => hs.last (by simp [hc, Collector.filling]), nofun⟩
    · simpa [hc, hi, Collector.current] using hs.flow
    · simp [Collector.sized]
      omega
  · refine ⟨hs.keys, hs.nodup, by simpa [hc, Collector.current] using hs.flow, hs.closed,
      fun _ => ⟨hic, hi⟩, rfl, by simpa [Batch.isFull] using hf, hs.sorted, hs.full,
      fun _ => hs.last (by simp [hc, Collector.filling]), nofun⟩

theorem Shaped.dispatch (hs : Shaped c q) (h : q.dispatch c = some q') : Shaped c q' := by
  obtain ⟨closing, batch, hc, hfull, rfl⟩ := dispatch_spec h
  have hsz := hs.sized
  rw [hc] at hsz
  refine ⟨hs.keys, hs.nodup, ?_, hs.closed, fun h => hs.closing (by simpa [hc] using h), rfl, ?_,
    hs.sorted, hs.full, fun _ => hs.last (by simp [hc, Collector.filling]), nofun⟩
  · have hflow : (q.calls.flatten ++ batch ++ q.incoming).Perm q.sent := by
      simpa [hc, Collector.current] using hs.flow
    simpa [Collector.current] using
      (((Batch.sortDesc_perm batch).append_left _).append_right _).trans hflow
  · cases closing
    · have : c.batchSize ≤ batch.length := by simpa [Batch.isFull] using hfull
      exact ⟨by simp only [length_sortDesc]; exact le_antisymm hsz this, batch.sortDesc_sorted⟩
    · exact ⟨by simpa using hsz, batch.sortDesc_sorted⟩

theorem Shaped.negotiate {r : Except Err (String × List ObjectResource)} (hs : Shaped c q)
    (hr : Smooth q (.negotiate r)) (h : q.negotiate r = some q') : Shaped c q' := by
  obtain ⟨closing, batch, hc, ⟨e, rfl, -⟩ | ⟨name, objs, rfl, rfl⟩⟩ := negotiate_spec h
  · cases hr
  obtain ⟨a, p, e, hu⟩ := q.useAdapter_eq name
  have hsz := hs.sized
  rw [hc] at hsz
  have hall : ∀ b ∈ q.calls, b.length = c.batchSize :=
    forall_mem_of_getLast? hs.full (hs.last (by simp [hc, Collector.filling]))
  have hcl : closing = true → q.incomingClosed = true ∧ q.incoming = [] := fun h' =>
    hs.closing (by simp [hc, Collector.closing, h'])
  refine ⟨by simpa [keys, hu] using hs.keys, by simpa [keys, hu] using hs.nodup, ?_,
    by simpa [hu] using hs.closed, fun h' => by simpa [hu] using hcl h', rfl, trivial,
    fun b hb => ?_, by simpa [hu] using hall, fun h' b hb => ?_, fun _ h' => ?_⟩
  · simpa [hu, hc, Collector.current] using hs.flow
  · simp only [hu, List.mem_append, List.mem_singleton] at hb
    rcases hb with hb | rfl
    · exact hs.sorted b hb
    · cases closing <;> exact hsz.2
  · simp [hu] at hb
    subst hb
    cases closing
    · exact hsz.1
    · simp [Collector.filling, Collector.closing] at h'
  · simp only [Collector.closing] at h'
    subst h'
    exact ⟨batch, by simp [hu], hsz.1⟩

theorem Shaped.requeue (hs : Shaped c q) (h : q.requeue = some q') : Shaped c q' := by
  have hq := hs.quiet
  obtain ⟨closing, e, next, ⟨t, rest, hc, -⟩ | ⟨hc, -⟩⟩ := requeue_spec h <;>
    simp [hc, Collector.quiet] at hq

theorem Shaped.forward (hs : Shaped c q) (h : q.forward = some q') : Shaped c q' := by
  have hq := hs.quiet
  obtain ⟨closing, e, next, hc, -⟩ := forward_spec h
  simp [hc, Collector.quiet] at hq

theorem Shaped.scan (hs : Shaped c q) (h : q.scan c = some q') : Shaped c q' := by
  obtain ⟨closing, tt, ⟨objs, hc, rfl, rfl⟩ | ⟨o, objs, hc, ⟨e, -, hs'⟩ | ⟨-, hd⟩ | ⟨t, -, rfl⟩ |
    ⟨-, rfl⟩⟩⟩ := scan_spec h
  · exact hs.move (by rw [hc]; exact ⟨rfl, rfl, rfl, rfl⟩)
  · exact hs.of_sendError hs' (by rw [hc]; exact ⟨rfl, rfl, rfl, rfl⟩)
  · exact hs.of_done hd (by rw [hc]; exact ⟨rfl, rfl, rfl, rfl⟩)
  · exact hs.move (by rw [hc]; exact ⟨rfl, rfl, rfl, rfl⟩)
  · exact hs.crash

theorem Shaped.skip (hs : Shaped c q) (h : q.skip = some q') : Shaped c q' := by
  obtain ⟨closing, y, objs, tt, hc, hd⟩ := skip_spec h
  exact hs.of_done hd (by rw [hc]; exact ⟨rfl, rfl, rfl, rfl⟩)

theorem Shaped.spawn {closing : Bool} {pending : Batch} (hs : Shaped c q)
    (hc : q.collector = .begin closing pending) : Shaped c (q.spawn c closing pending) :=
  (hs.frame rfl rfl rfl rfl rfl id rfl rfl :
    Shaped c { q with dispatched := (q.spawn c closing pending).dispatched }).move
    (by rw [hc]; exact ⟨rfl, rfl, rfl, rfl⟩)

theorem Shaped.begin {r : Option Err} (hs : Shaped c q) (h : q.begin c r = some q') :
    Shaped c q' := by
  obtain ⟨closing, pending, hc, ⟨-, rfl⟩ | ⟨-, -, rfl⟩ | ⟨-, -, -, rfl⟩ | ⟨e, -, -, -, rfl⟩⟩ :=
    begin_spec h
  · exact hs.spawn hc
  · exact hs.crash
  · exact (hs.frame rfl rfl rfl rfl rfl id rfl rfl :
      Shaped c { q with adapterInProgress := true, begun := q.begun + 1 }).spawn hc
  · exact hs.move (by rw [hc]; exact ⟨rfl, rfl, rfl, rfl⟩)

theorem Shaped.abandon (hs : Shaped c q) (h : q.abandon = some q') : Shaped c q' := by
  obtain ⟨closing, e, pending, hc, hs'⟩ := abandon_spec h
  exact hs.of_sendError hs' (by rw [hc]; exact ⟨rfl, rfl, rfl, rfl⟩)

theorem Shaped.drop (hs : Shaped c q) (h : q.drop = some q') : Shaped c q' := by
  obtain ⟨closing, ⟨t, rest, hc, hd⟩ | ⟨hc, rfl⟩⟩ := drop_spec h
  · exact hs.of_done hd (by rw [hc]; exact ⟨rfl, rfl, rfl, rfl⟩)
  · exact hs.endRound (by rw [hc]; rfl) (by rw [hc]; rfl)

theorem Shaped.result {t : Transferable} {err : Option Err} (hs : Shaped c q)
    (he : Smooth q (.result t err)) (h : q.result c t err = some q') : Shaped c q' := by
  obtain ⟨closing, next, retries, pending, hc, -, -, ⟨-, rfl⟩ | ⟨e, rfl, -⟩⟩ := result_spec h
  · have hq := hs.quiet
    rw [hc] at hq
    exact hs.move (by rw [hc]; exact ⟨rfl, rfl, rfl, hq⟩)
  · cases he

theorem Shaped.notify (hs : Shaped c q) (h : q.notify c = some q') : Shaped c q' := by
  have hq := hs.quiet
  obtain ⟨closing, next, retries, pending, t, k, hc, ⟨-, rfl⟩ | ⟨w, -, -, rfl⟩ | ⟨w, -, -, -, rfl⟩⟩ :=
    notify_spec h
  · rw [hc] at hq
    exact hs.move (by rw [hc]; exact ⟨rfl, rfl, rfl, hq⟩)
  · exact hs.crash
  · rw [hc] at hq
    exact (hs.move (C := .collect closing next ⟨retries, .running pending (.notify t (k + 1))⟩)
      (by rw [hc]; exact ⟨rfl, rfl, rfl, hq⟩)).frame rfl rfl rfl rfl rfl id rfl rfl

theorem Shaped.report (hs : Shaped c q) (h : q.report = some q') : Shaped c q' := by
  have hq := hs.quiet
  obtain ⟨closing, next, retries, pending, t, e, d, hc, hs'⟩ := report_spec h
  rw [hc] at hq
  exact hs.of_sendError hs' (by rw [hc]; exact ⟨rfl, rfl, rfl, hq⟩)

theorem Shaped.finish (hs : Shaped c q) (h : q.finish = some q') : Shaped c q' := by
  have hq := hs.quiet
  obtain ⟨closing, next, retries, pending, t, o, hc, hd⟩ := finish_spec h
  rw [hc] at hq
  exact hs.of_done hd (by rw [hc]; exact ⟨rfl, rfl, rfl, hq⟩)

theorem Shaped.closeRetries (hs : Shaped c q) (h : q.closeRetries = some q') : Shaped c q' := by
  have hq := hs.quiet
  obtain ⟨closing, next, retries, hc, rfl⟩ := closeRetries_spec h
  rw [hc] at hq
  exact hs.move (by rw [hc]; exact ⟨rfl, rfl, rfl, hq⟩)

theorem Shaped.retry (hs : Shaped c q) (h : q.retry = some q') : Shaped c q' := by
  have hq := hs.quiet
  obtain ⟨closing, next, t, rest, f, hc, -⟩ := retry_spec h
  simp [hc, Collector.quiet] at hq

theorem Shaped.endRoundStep (hs : Shaped c q) (h : q.endRound = some q') : Shaped c q' := by
  have hq := hs.quiet
  obtain ⟨closing, next, hc, rfl⟩ := endRound_spec h
  obtain rfl : next = [] := by simpa [hc, Collector.quiet] using hq
  exact hs.endRound (by rw [hc]; rfl) (by rw [hc]; rfl)

theorem step_shaped (hs : Shaped c q) (ha : Smooth q a) (h : step c q a = some q') :
    Shaped c q' := by
  have hf : ∀ {q' : Queue}, q'.waitPc ≠ .idle → q'.transferables = q.transferables →
      q'.adding = q.adding → q'.sent = q.sent → q'.incoming = q.incoming →
      q'.incomingClosed = q.incomingClosed → q'.calls = q.calls → q'.collector = q.collector →
      Shaped c q' := fun hw h₁ h₂ h₃ h₄ h₅ h₆ h₇ => hs.frame h₁ h₂ h₃ h₄ h₅ (fun _ => hw) h₆ h₇
  cases a <;> simp only [step] at h <;> split at h <;> first | cases h | skip
  case add.isFalse => exact hs.add h
  case send.isFalse => exact hs.send h
  case receive.isFalse => exact hs.receive h
  case dispatch.isFalse => exact hs.dispatch h
  case negotiate.isFalse => exact hs.negotiate ha h
  case requeue.isFalse => exact hs.requeue h
  case forward.isFalse => exact hs.forward h
  case scan.isFalse => exact hs.scan h
  case skip.isFalse => exact hs.skip h
  case begin.isFalse => exact hs.begin h
  case abandon.isFalse => exact hs.abandon h
  case drop.isFalse => exact hs.drop h
  case result.isFalse => exact hs.result ha h
  case notify.isFalse => exact hs.notify h
  case report.isFalse => exact hs.report h
  case finish.isFalse => exact hs.finish h
  case closeRetries.isFalse => exact hs.closeRetries h
  case retry.isFalse => exact hs.retry h
  case endRound.isFalse => exact hs.endRoundStep h
  case waitStart.isFalse =>
    obtain ⟨-, hd, rfl | rfl⟩ := waitStart_spec h
    · exact hs.crash
    · exact ⟨hs.keys, hs.nodup, hs.flow, fun _ => ⟨hd, nofun⟩,
        fun h => ⟨rfl, (hs.closing h).2⟩, hs.quiet, hs.sized, hs.sorted, hs.full, hs.last,
        hs.short⟩
  case waitWake.isFalse =>
    obtain ⟨-, -, rfl⟩ := waitWake_spec h
    exact hf nofun rfl rfl rfl rfl rfl rfl rfl
  case finishAdapter.isFalse =>
    obtain ⟨-, rfl⟩ := finishAdapterStep_spec h
    obtain ⟨a, p, e, hu⟩ := q.finishAdapter_eq
    rw [hu]
    exact hf nofun rfl rfl rfl rfl rfl rfl rfl
  case closeErrors.isFalse =>
    obtain ⟨-, rfl | ⟨-, rfl⟩⟩ := closeErrors_spec h
    exacts [hs.crash, hf nofun rfl rfl rfl rfl rfl rfl rfl]
  case waitReturn.isFalse =>
    obtain ⟨-, -, rfl⟩ := waitReturn_spec h
    exact hf nofun rfl rfl rfl rfl rfl rfl rfl
  case collectError.isFalse =>
    obtain ⟨e, -, rfl⟩ := collectError_spec h
    exact hs.frame rfl rfl rfl rfl rfl id rfl rfl
  case collectorExit.isFalse =>
    obtain ⟨-, -, rfl⟩ := collectorExit_spec h
    exact hs.frame rfl rfl rfl rfl rfl id rfl rfl
  case consume.isFalse =>
    obtain ⟨v, o, rest, -, -, rfl⟩ := consume_spec h
    exact hs.frame rfl rfl rfl rfl rfl id rfl rfl

theorem reachable_shaped (h : Reachable c Smooth q) : Shaped c q := by
  induction h with
  | init p => exact shaped_init c _
  | step _ ha hs ih => exact step_shaped ih ha hs

/-- Once `collectBatches` has exited in a run without failures, the calls of `api.Batch`
partition the added oids; each batch is sorted largest first; all but the last hold
`batchSize` objects, and the last holds the rest, so there are `M / batchSize + 1` calls
for `M` objects, the last one empty when `batchSize` divides `M`. -/
theorem batches_of_exited (h : Reachable c Smooth q) (hx : q.collector = .exited) :
    q.negotiated.Perm q.keys ∧ q.keys.Nodup ∧
    (∀ b ∈ q.calls, b.Sorted fun s t => t.size ≤ s.size) ∧
    (∀ b ∈ q.calls.dropLast, b.length = c.batchSize) ∧
    q.calls.getLast?.map List.length = some (q.keys.length % c.batchSize) ∧
    q.calls.length = q.keys.length / c.batchSize + 1 := by
  have hs := reachable_shaped h
  obtain ⟨hic, hi⟩ := hs.closing (by rw [hx]; rfl)
  have ha := (hs.closed hic).1
  obtain ⟨b, hb, hlt⟩ := hs.short (by rw [hx]; rfl) (by rw [hx]; rfl)
  have hflow : q.calls.flatten.Perm q.sent := by
    simpa [hx, hi, Collector.current] using hs.flow
  have hkeys : (oids q.sent).Perm q.keys := by simpa [ha] using hs.keys.symm
  have hlen : q.keys.length = c.batchSize * (q.calls.length - 1) + b.length := by
    rw [← hkeys.length_eq, length_oids, ← hflow.length_eq, length_flatten_of_full hb hs.full]
  have hpos : 0 < c.batchSize := Nat.lt_of_le_of_lt (Nat.zero_le _) hlt
  have hne : q.calls ≠ [] := fun h' => by simp [h'] at hb
  refine ⟨?_, hs.nodup, hs.sorted, hs.full, ?_, ?_⟩
  · rw [negotiated, show q.calls.map oids = q.calls.map (List.map (·.oid)) from rfl,
      ← List.map_flatten]
    exact (hflow.map _).trans hkeys
  · rw [hb, hlen, Nat.add_comm (c.batchSize * _), Nat.add_mul_mod_self_left, Nat.mod_eq_of_lt hlt]
    rfl
  · rw [hlen, Nat.add_comm (c.batchSize * _), Nat.add_mul_div_left _ _ hpos, Nat.div_eq_of_lt hlt]
    have := List.length_pos.mpr hne
    omega

/-- `basicRun` has no failure: one object, a batch size of one. After its full batch the
loop reads the close in a new round and calls `api.Batch` with an empty batch. -/
theorem basicRun_empty_batch :
    Reachable basicConfig Smooth basicRun ∧ basicConfig.batchSize = 1 ∧ basicRun.keys = ["a"] ∧
      basicRun.collector = .exited ∧ basicRun.calls.map List.length = [1, 0] :=
  ⟨Reachable.run (fun _ _ h => h) (.init (.ok none))
    (rfl : run basicConfig (fun _ a => smooth a)
      (Queue.init basicConfig (newRetryCounter (.ok none))) basicTrace = some basicRun), by decide⟩

theorem basicRun_batches :
    basicRun.negotiated.Perm basicRun.keys ∧ basicRun.keys.Nodup ∧
    (∀ b ∈ basicRun.calls, b.Sorted fun s t => t.size ≤ s.size) ∧
    (∀ b ∈ basicRun.calls.dropLast, b.length = basicConfig.batchSize) ∧
    basicRun.calls.getLast?.map List.length =
      some (basicRun.keys.length % basicConfig.batchSize) ∧
    basicRun.calls.length = basicRun.keys.length / basicConfig.batchSize + 1 :=
  batches_of_exited (Reachable.run (fun _ _ h => h) (.init (.ok none))
    (rfl : run basicConfig (fun _ a => smooth a)
      (Queue.init basicConfig (newRetryCounter (.ok none))) basicTrace = some basicRun))
    (by decide)

end Queue

end GitLfs.Tq
