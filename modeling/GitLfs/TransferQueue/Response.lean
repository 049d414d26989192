import GitLfs.TransferQueue.Batching

/-! # The response loop against any response

The response loop of `enqueueAndCollectRetriesFor` walks the objects of the batch API
response, not the oids of the batch it sent: it closes out one oid for each object with an
error or without an action for the transfer kind, and collects a transfer for each other
object. Whatever the server answers, the oids it closes out and the transfers it hands to
the adapter are the response's objects, one for one. An oid of the batch that the response
leaves out is neither, and `Wait` then waits for it forever.
-/

namespace GitLfs.Tq

/-- The response loop is running. -/
def Collector.responding : Collector → Bool
  | .scan .. | .skip .. => true
  | _ => false

namespace Queue

variable {c : Config} {q₀ q q' : Queue} {a : Act}

theorem step_of_responding (hr : q.collector.responding = true) (h : step c q a = some q') :
    q.scan c = some q' ∨ q.skip = some q' ∨
      (q'.collector = q.collector ∧ q'.outcomes = q.outcomes) := by
  have hn : ∀ {C : Collector}, C.responding = false → q.collector ≠ C := fun h' hc => by
    rw [hc, h'] at hr; cases hr
  cases a <;> simp only [step] at h <;> split at h <;> first | cases h | skip
  case add.isFalse => obtain ⟨-, ⟨-, rfl⟩ | ⟨-, rfl⟩⟩ := add_spec h <;> exact .inr (.inr ⟨rfl, rfl⟩)
  case send.isFalse =>
    obtain ⟨-, rfl | ⟨-, rfl⟩⟩ := send_spec h <;> exact .inr (.inr ⟨rfl, rfl⟩)
  case receive.isFalse => obtain ⟨_, hc, -⟩ := receive_spec h; exact absurd hc (hn rfl)
  case dispatch.isFalse => obtain ⟨_, _, hc, -⟩ := dispatch_spec h; exact absurd hc (hn rfl)
  case negotiate.isFalse => obtain ⟨_, _, hc, -⟩ := negotiate_spec h; exact absurd hc (hn rfl)
  case requeue.isFalse =>
    obtain ⟨_, _, _, ⟨_, _, hc, -⟩ | ⟨hc, -⟩⟩ := requeue_spec h <;> exact absurd hc (hn rfl)
  case forward.isFalse => obtain ⟨_, _, _, hc, -⟩ := forward_spec h; exact absurd hc (hn rfl)
  case scan.isFalse => exact .inl h
  case skip.isFalse => exact .inr (.inl h)
  case begin.isFalse => obtain ⟨_, _, hc, -⟩ := begin_spec h; exact absurd hc (hn rfl)
  case abandon.isFalse => obtain ⟨_, _, _, hc, -⟩ := abandon_spec h; exact absurd hc (hn rfl)
  case drop.isFalse =>
    obtain ⟨_, ⟨_, _, hc, -⟩ | ⟨hc, -⟩⟩ := drop_spec h <;> exact absurd hc (hn rfl)
  case result.isFalse => obtain ⟨_, _, _, _, hc, -⟩ := result_spec h; exact absurd hc (hn rfl)
  case notify.isFalse => obtain ⟨_, _, _, _, _, _, hc, -⟩ := notify_spec h; exact absurd hc (hn rfl)
  case report.isFalse =>
    obtain ⟨_, _, _, _, _, _, _, hc, -⟩ := report_spec h; exact absurd hc (hn rfl)
  case finish.isFalse => obtain ⟨_, _, _, _, _, _, hc, -⟩ := finish_spec h; exact absurd hc (hn rfl)
  case closeRetries.isFalse =>
    obtain ⟨_, _, _, hc, -⟩ := closeRetries_spec h; exact absurd hc (hn rfl)
  case retry.isFalse => obtain ⟨_, _, _, _, _, hc, -⟩ := retry_spec h; exact absurd hc (hn rfl)
  case endRound.isFalse => obtain ⟨_, _, hc, -⟩ := endRound_spec h; exact absurd hc (hn rfl)
  case waitStart.isFalse =>
    obtain ⟨-, -, rfl | rfl⟩ := waitStart_spec h <;> exact .inr (.inr ⟨rfl, rfl⟩)
  case waitWake.isFalse => obtain ⟨-, -, rfl⟩ := waitWake_spec h; exact .inr (.inr ⟨rfl, rfl⟩)
  case finishAdapter.isFalse =>
    obtain ⟨-, rfl⟩ := finishAdapterStep_spec h
    obtain ⟨_, _, _, hu⟩ := q.finishAdapter_eq
    rw [hu]
    exact .inr (.inr ⟨rfl, rfl⟩)
  case closeErrors.isFalse =>
    obtain ⟨-, rfl | ⟨-, rfl⟩⟩ := closeErrors_spec h <;> exact .inr (.inr ⟨rfl, rfl⟩)
  case waitReturn.isFalse => obtain ⟨-, -, rfl⟩ := waitReturn_spec h; exact .inr (.inr ⟨rfl, rfl⟩)
  case collectError.isFalse => obtain ⟨_, -, rfl⟩ := collectError_spec h; exact .inr (.inr ⟨rfl, rfl⟩)
  case collectorExit.isFalse => obtain ⟨-, -, rfl⟩ := collectorExit_spec h; exact .inr (.inr ⟨rfl, rfl⟩)
  case consume.isFalse => obtain ⟨_, _, _, -, -, rfl⟩ := consume_spec h; exact .inr (.inr ⟨rfl, rfl⟩)

/-- What the response loop has done since it started on `objs`, in the round that has read
`closing`: the oids it has closed out, each skipped or failed, together with the objects it
has left and the transfers it has collected, are the response's objects. -/
structure Responds (objs : List ObjectResource) (closing : Bool) (q₀ q : Queue) : Prop where
  outcomes : ∃ new, q.outcomes = q₀.outcomes ++ new ∧
    (∀ p ∈ new, p.2 = .skipped ∨ p.2 = .objectFailed) ∧
    (new.map (·.1) ++ q.collector.toDispatch).Perm (objs.map (·.oid))
  phase : (q.collector.responding = true ∧ q.collector.closing = closing) ∨
    ∃ tt, q.collector = .begin closing tt

variable {objs : List ObjectResource} {closing : Bool}

theorem Responds.of_eq (hr : Responds objs closing q₀ q) (hc : q'.collector = q.collector)
    (ho : q'.outcomes = q.outcomes) : Responds objs closing q₀ q' := by
  obtain ⟨h₁, h₂⟩ := hr
  rw [← hc, ← ho] at *
  exact ⟨h₁, h₂⟩

theorem Responds.closing_eq (hr : Responds objs closing q₀ q)
    (hresp : q.collector.responding = true) : q.collector.closing = closing := by
  rcases hr.phase with ⟨-, h⟩ | ⟨tt, hb⟩
  · exact h
  · rw [hb] at hresp; cases hresp

theorem Responds.move {C : Collector} (hr : Responds objs closing q₀ q)
    (hresp : q.collector.responding = true) (hC : C.toDispatch.Perm q.collector.toDispatch)
    (hp : (C.responding = true ∧ C.closing = q.collector.closing) ∨
      ∃ tt, C = .begin q.collector.closing tt) :
    Responds objs closing q₀ { q with collector := C } := by
  obtain ⟨new, hn, hk, hperm⟩ := hr.outcomes
  have hcl := hr.closing_eq hresp
  refine ⟨⟨new, hn, hk, (hC.append_left _).trans hperm⟩, ?_⟩
  rw [← hcl]
  exact hp

theorem Responds.close {y : Oid} {o : Outcome} {C : Collector}
    (hr : Responds objs closing q₀ q) (hresp : q.collector.responding = true)
    (hd : q.done y o (fun q => { q with collector := C }) = some q')
    (ho : o = .skipped ∨ o = .objectFailed) (hC : q.collector.toDispatch.Perm (y :: C.toDispatch))
    (hp : C.responding = true ∧ C.closing = q.collector.closing) : Responds objs closing q₀ q' := by
  rcases done_cases hd with rfl | ⟨-, rfl⟩
  · exact hr.of_eq rfl rfl
  obtain ⟨new, hn, hk, hperm⟩ := hr.outcomes
  refine ⟨⟨new ++ [(y, o)], by simp [hn], ?_, ?_⟩, .inl ⟨hp.1, hp.2.trans (hr.closing_eq hresp)⟩⟩
  · intro p hp'
    rcases List.mem_append.mp hp' with hp' | hp'
    · exact hk p hp'
    · rw [List.mem_singleton.mp hp']; exact ho
  · simpa using (hC.symm.append_left (new.map (·.1))).trans hperm

/-! ### Each step of the loop keeps what it has done -/

theorem Responds.scan (hr : Responds objs closing q₀ q) (h : q.scan c = some q') :
    Responds objs closing q₀ q' := by
  obtain ⟨cl, tt, ⟨objs', hc, rfl, rfl⟩ | ⟨o, objs', hc, ⟨e, -, hs⟩ | ⟨-, hd⟩ | ⟨t, ht, rfl⟩ |
    ⟨-, rfl⟩⟩⟩ := scan_spec h
  · exact hr.move (by rw [hc]; rfl) (by simp [hc, Collector.toDispatch]) (.inr ⟨tt, by rw [hc]; rfl⟩)
  · rcases sendError_cases hs with rfl | ⟨-, -, rfl⟩
    · exact hr.of_eq rfl rfl
    · exact (hr.of_eq rfl rfl :
        Responds objs closing q₀ { q with holding := some (.object o.oid e) }).move
        (by rw [hc]; rfl) (by simp [hc, Collector.toDispatch]) (.inl ⟨rfl, by rw [hc]; rfl⟩)
  · exact hr.close (by rw [hc]; rfl) hd (.inl rfl) (by simp [hc, Collector.toDispatch])
      ⟨rfl, by rw [hc]; rfl⟩
  · have := q.lookup_oid (dispose_transfer ht)
    refine hr.move (by rw [hc]; rfl) ?_ (.inl ⟨rfl, by rw [hc]; rfl⟩)
    simp only [hc, Collector.toDispatch, oids_append, oids_cons, oids_nil, this, List.map_cons,
      List.cons_append]
    exact ((List.perm_append_singleton _ _).append_left _).trans List.perm_middle
  · exact hr.of_eq rfl rfl

theorem Responds.skip (hr : Responds objs closing q₀ q) (h : q.skip = some q') :
    Responds objs closing q₀ q' := by
  obtain ⟨cl, y, objs', tt, hc, hd⟩ := skip_spec h
  exact hr.close (by rw [hc]; rfl) hd (.inr rfl) (by simp [hc, Collector.toDispatch])
    ⟨rfl, by rw [hc]; rfl⟩

theorem Responds.step (hr : Responds objs closing q₀ q) (hresp : q.collector.responding = true)
    (h : step c q a = some q') : Responds objs closing q₀ q' := by
  rcases step_of_responding hresp h with h | h | ⟨hc, ho⟩
  exacts [hr.scan h, hr.skip h, hr.of_eq hc ho]

theorem Responds.run : ∀ {q q' : Queue} {as : List Act}, Responds objs closing q₀ q →
    Tq.run c (fun q _ => q.collector.responding) q as = some q' → Responds objs closing q₀ q'
  | q, q', [], hr, h => by cases h; exact hr
  | q, q', a :: as, hr, h => by
    simp only [Tq.run] at h
    split at h
    · cases hs : Tq.step c q a with
      | none => simp [hs] at h
      | some q₁ =>
        simp only [hs, Option.bind_some] at h
        exact (hr.step ‹_› hs).run h
    · cases h

/-- From `q.useAdapter(adapterName)` on, whatever the response `objs`, and whatever the
other goroutines do meanwhile: the oids the loop closes out, each skipped or failed,
together with the objects it has left and the transfers it has collected for
`addToAdapter`, are the oids of the response's objects, as many times as the response
lists each. A queue that panicked in the loop keeps the loop's state, so this holds of it
too; `scan_foreign` says when the loop panics. -/
theorem response_loop (hq : q.collector = .scan closing objs [])
    (h : run c (fun q _ => q.collector.responding) q as = some q') :
    ∃ new, q'.outcomes = q.outcomes ++ new ∧ (∀ p ∈ new, p.2 = .skipped ∨ p.2 = .objectFailed) ∧
      (new.map (·.1) ++ q'.collector.toDispatch).Perm (objs.map (·.oid)) ∧
      (q'.collector.responding = true ∨ ∃ tt, q'.collector = .begin closing tt) := by
  have h₀ : Responds objs closing q q :=
    ⟨⟨[], by simp, by simp, by simp [hq, Collector.toDispatch]⟩, .inl ⟨by rw [hq]; rfl, by rw [hq]; rfl⟩⟩
  obtain ⟨⟨new, hn, hk, hp⟩, hph⟩ := h₀.run h
  exact ⟨new, hn, hk, hp, hph.imp And.left id⟩

/-- A response with an error object for `a`, an action for `a` and no action for an oid
`z` the queue never added, to a batch of `a` and `b`: `a` is closed out and transferred,
`z` closed out, `b` neither. -/
def deviatingObjects : List ObjectResource :=
  [⟨"a", 1, [], some ⟨404, "x"⟩⟩, ⟨"a", 1, ["upload"], none⟩, ⟨"z", 3, [], none⟩]

def deviatingTrace : List Act :=
  let a : Transferable := ⟨"a", 1⟩
  let b : Transferable := ⟨"b", 2⟩
  [.add a, .add b, .send a, .send b, .waitStart, .receive, .receive, .receive, .dispatch,
    .negotiate (.ok ("basic", deviatingObjects))]

def deviatingStart : Queue :=
  let q₀ := Queue.init defaultConfig (newRetryCounter (.ok none))
  (run defaultConfig (fun _ _ => true) q₀ deviatingTrace).getD q₀

def deviatingLoop : List Act := [.scan, .collectError, .skip, .scan, .scan, .scan]

def deviatingEnd : Queue :=
  (run defaultConfig (fun q _ => q.collector.responding) deviatingStart deviatingLoop).getD
    deviatingStart

theorem deviatingEnd_response_loop :
    ∃ new, deviatingEnd.outcomes = deviatingStart.outcomes ++ new ∧
      (∀ p ∈ new, p.2 = .skipped ∨ p.2 = .objectFailed) ∧
      (new.map (·.1) ++ deviatingEnd.collector.toDispatch).Perm
        (deviatingObjects.map (·.oid)) ∧
      (deviatingEnd.collector.responding = true ∨ ∃ tt, deviatingEnd.collector = .begin true tt) :=
  response_loop (by decide)
    (rfl : run defaultConfig (fun q _ => q.collector.responding) deviatingStart deviatingLoop =
      some deviatingEnd)

example : deviatingEnd.outcomes = [("a", .objectFailed), ("z", .skipped)] ∧
    deviatingEnd.collector = .begin true [⟨"a", 1⟩] ∧ deviatingEnd.wait = 0 := by decide

/-- `Wait` waits on a counter nobody will lower: `collectBatches` has exited and the
counter is not zero. -/
structure Stalled (q : Queue) : Prop where
  collector : q.collector = .exited
  waitPc : q.waitPc = .drain
  wait : q.wait ≠ 0

theorem Stalled.step (hs : Stalled q) (h : step c q a = some q') : Stalled q' := by
  have hn : ∀ {C : Collector}, C ≠ .exited → q.collector ≠ C := fun hC hc =>
    hC (hc ▸ hs.collector)
  have hf : ∀ {q' : Queue}, q'.collector = q.collector → q'.waitPc = q.waitPc →
      q'.wait = q.wait → Stalled q' := fun h₁ h₂ h₃ =>
    ⟨h₁ ▸ hs.collector, h₂ ▸ hs.waitPc, h₃ ▸ hs.wait⟩
  have hw : q.waitPc ≠ .idle := by rw [hs.waitPc]; nofun
  cases a <;> simp only [step] at h <;> split at h <;> first | cases h | skip
  case add.isFalse => exact absurd (add_spec h).1 hw
  case send.isFalse => obtain ⟨-, rfl | ⟨-, rfl⟩⟩ := send_spec h <;> exact hf rfl rfl rfl
  case receive.isFalse => obtain ⟨_, hc, -⟩ := receive_spec h; exact absurd hc (hn nofun)
  case dispatch.isFalse => obtain ⟨_, _, hc, -⟩ := dispatch_spec h; exact absurd hc (hn nofun)
  case negotiate.isFalse => obtain ⟨_, _, hc, -⟩ := negotiate_spec h; exact absurd hc (hn nofun)
  case requeue.isFalse =>
    obtain ⟨_, _, _, ⟨_, _, hc, -⟩ | ⟨hc, -⟩⟩ := requeue_spec h <;> exact absurd hc (hn nofun)
  case forward.isFalse => obtain ⟨_, _, _, hc, -⟩ := forward_spec h; exact absurd hc (hn nofun)
  case scan.isFalse =>
    obtain ⟨_, _, ⟨_, hc, -⟩ | ⟨_, _, hc, -⟩⟩ := scan_spec h <;> exact absurd hc (hn nofun)
  case skip.isFalse => obtain ⟨_, _, _, _, hc, -⟩ := skip_spec h; exact absurd hc (hn nofun)
  case begin.isFalse => obtain ⟨_, _, hc, -⟩ := begin_spec h; exact absurd hc (hn nofun)
  case abandon.isFalse => obtain ⟨_, _, _, hc, -⟩ := abandon_spec h; exact absurd hc (hn nofun)
  case drop.isFalse =>
    obtain ⟨_, ⟨_, _, hc, -⟩ | ⟨hc, -⟩⟩ := drop_spec h <;> exact absurd hc (hn nofun)
  case result.isFalse => obtain ⟨_, _, _, _, hc, -⟩ := result_spec h; exact absurd hc (hn nofun)
  case notify.isFalse =>
    obtain ⟨_, _, _, _, _, _, hc, -⟩ := notify_spec h; exact absurd hc (hn nofun)
  case report.isFalse =>
    obtain ⟨_, _, _, _, _, _, _, hc, -⟩ := report_spec h; exact absurd hc (hn nofun)
  case finish.isFalse =>
    obtain ⟨_, _, _, _, _, _, hc, -⟩ := finish_spec h; exact absurd hc (hn nofun)
  case closeRetries.isFalse =>
    obtain ⟨_, _, _, hc, -⟩ := closeRetries_spec h; exact absurd hc (hn nofun)
  case retry.isFalse => obtain ⟨_, _, _, _, _, hc, -⟩ := retry_spec h; exact absurd hc (hn nofun)
  case endRound.isFalse => obtain ⟨_, _, hc, -⟩ := endRound_spec h; exact absurd hc (hn nofun)
  case waitStart.isFalse => exact absurd (waitStart_spec h).1 hw
  case waitWake.isFalse => exact absurd (waitWake_spec h).2.1 hs.wait
  case finishAdapter.isFalse =>
    have := (finishAdapterStep_spec h).1; rw [hs.waitPc] at this; cases this
  case closeErrors.isFalse => have := (closeErrors_spec h).1; rw [hs.waitPc] at this; cases this
  case waitReturn.isFalse => have := (waitReturn_spec h).1; rw [hs.waitPc] at this; cases this
  case collectError.isFalse => obtain ⟨_, -, rfl⟩ := collectError_spec h; exact hf rfl rfl rfl
  case collectorExit.isFalse => obtain ⟨-, -, rfl⟩ := collectorExit_spec h; exact hf rfl rfl rfl
  case consume.isFalse => obtain ⟨_, _, _, -, -, rfl⟩ := consume_spec h; exact hf rfl rfl rfl

theorem Stalled.run {ok : Queue → Act → Bool} :
    ∀ {q q' : Queue} {as : List Act}, Stalled q → Tq.run c ok q as = some q' → Stalled q'
  | q, q', [], hs, h => by cases h; exact hs
  | q, q', a :: as, hs, h => by
    simp only [Tq.run] at h
    split at h
    · cases hst : Tq.step c q a with
      | none => simp [hst] at h
      | some q₁ =>
        simp only [hst, Option.bind_some] at h
        exact (hs.step hst).run h
    · cases h

/-- One `Add` of `a`, and a response that leaves `a` out: the round ends with `a` neither
closed out nor carried, `collectBatches` exits, and `Wait` never returns. -/
def omittedTrace : List Act :=
  let t : Transferable := ⟨"a", 1⟩
  [.add t, .send t, .waitStart, .receive, .receive, .dispatch, .negotiate (.ok ("basic", [])),
    .scan, .begin none, .closeRetries, .endRound]

def omittedRun : Queue :=
  let q₀ := Queue.init defaultConfig (newRetryCounter (.ok none))
  (run defaultConfig (fun _ _ => true) q₀ omittedTrace).getD q₀

theorem omitted_oid_stalls :
    Reachable defaultConfig (fun _ _ => True) omittedRun ∧ omittedRun.keys = ["a"] ∧
      omittedRun.calls = [[⟨"a", 1⟩]] ∧ omittedRun.outcomes = [] ∧
      ∀ (ok : Queue → Act → Bool) as q', run defaultConfig ok omittedRun as = some q' →
        q'.waitPc = .drain :=
  ⟨Reachable.run (fun _ _ _ => trivial) (.init (.ok none))
      (rfl : run defaultConfig (fun _ _ => true)
        (Queue.init defaultConfig (newRetryCounter (.ok none))) omittedTrace = some omittedRun),
    by decide, by decide, by decide,
    fun _ _ _ h => (Stalled.run ⟨by decide, by decide, by decide⟩ h).waitPc⟩


theorem lookup_eq_none {oid : Oid} (h : oid ∉ q.keys) : q.lookup oid = none := by
  simp only [lookup, List.find?_eq_none, beq_iff_eq]
  exact fun t ht he => h (List.mem_map.mpr ⟨t, ht, he⟩)

/-- An object of the response with no error whose oid the queue has no transferable for: with
an action for the transfer kind the loop calls `q.Skip(t.Size())` on the nil `t` and panics;
without one it closes the oid out with `q.wait.Done()`, though that oid was never added. -/
theorem scan_foreign {o : ObjectResource} {tt : Batch}
    (hq : q.collector = .scan closing (o :: objs) tt) (he : o.error = none) (hk : o.oid ∉ q.keys) :
    (o.rel (transferKind c.direction) = true → q.scan c = some q.crash) ∧
      (o.rel (transferKind c.direction) = false →
        q.scan c = q.done o.oid .skipped fun q => { q with collector := .scan closing objs tt }) := by
  have hl := lookup_eq_none hk
  constructor <;> intro hr <;> simp [scan, hq, dispose, he, hr, hl]

/-- One `Add` of `a`, and a response that lists only an oid `z` the queue never added, with an
action for the upload: the loop panics on the nil transferable. -/
def foreignActionTrace : List Act :=
  let t : Transferable := ⟨"a", 1⟩
  [.add t, .send t, .waitStart, .receive, .receive, .dispatch,
    .negotiate (.ok ("basic", [⟨"z", 3, ["upload"], none⟩])), .scan]

def foreignActionRun : Queue :=
  let q₀ := Queue.init defaultConfig (newRetryCounter (.ok none))
  (run defaultConfig (fun _ _ => true) q₀ foreignActionTrace).getD q₀

/-- The same response with no action for `z`: `z` is closed out with `q.wait.Done()`, which
lowers the count `a` raised, and `Wait` returns with `a` never transferred. -/
def foreignSkipTrace : List Act :=
  let t : Transferable := ⟨"a", 1⟩
  [.add t, .send t, .waitStart, .receive, .receive, .dispatch,
    .negotiate (.ok ("basic", [⟨"z", 3, [], none⟩])), .scan, .scan, .begin none, .closeRetries,
    .endRound, .waitWake, .finishAdapter, .closeErrors, .collectorExit, .waitReturn]

def foreignSkipRun : Queue :=
  let q₀ := Queue.init defaultConfig (newRetryCounter (.ok none))
  (run defaultConfig (fun _ _ => true) q₀ foreignSkipTrace).getD q₀

theorem foreign_oid_runs :
    (Reachable defaultConfig (fun _ _ => True) foreignActionRun ∧ foreignActionRun.keys = ["a"] ∧
      foreignActionRun.panicked = true) ∧
    (Reachable defaultConfig (fun _ _ => True) foreignSkipRun ∧ foreignSkipRun.keys = ["a"] ∧
      foreignSkipRun.waitPc = .returned ∧ foreignSkipRun.outcomes = [("z", .skipped)] ∧
      foreignSkipRun.dispatched = []) :=
  ⟨⟨Reachable.run (fun _ _ _ => trivial) (.init (.ok none))
      (rfl : run defaultConfig (fun _ _ => true)
        (Queue.init defaultConfig (newRetryCounter (.ok none))) foreignActionTrace =
          some foreignActionRun), by decide, by decide⟩,
    ⟨Reachable.run (fun _ _ _ => trivial) (.init (.ok none))
      (rfl : run defaultConfig (fun _ _ => true)
        (Queue.init defaultConfig (newRetryCounter (.ok none))) foreignSkipTrace =
          some foreignSkipRun), by decide, by decide, by decide, by decide⟩⟩

end Queue

end GitLfs.Tq
