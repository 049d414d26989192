import GitLfs.TransferQueue.Step

/-! # What each action can do

One lemma per action, stating the program point it runs at, the guard it passes and the
state it leaves. Invariants are proved from these, never from the step functions. Sends on
`q.errorc` and calls of `q.wait.Done()` are left as `sendError` and `done`, which
`sendError_cases` and `done_cases` take apart.
-/

namespace GitLfs.Tq

namespace Queue

variable {c : Config} {q q' : Queue}

theorem sendError_cases {e : QueueError} {k : Queue → Queue} (h : q.sendError e k = some q') :
    q' = q.crash ∨ (q.errorcClosed = false ∧ q.holding = none ∧ q' = k { q with holding := some e }) := by
  unfold sendError at h
  split at h
  · exact .inl (Option.some_inj.mp h).symm
  · split at h
    · exact .inr ⟨by simpa using ‹¬q.errorcClosed = true›, ‹_›, (Option.some_inj.mp h).symm⟩
    · cases h

theorem done_cases {x : Oid} {o : Outcome} {k : Queue → Queue} (h : q.done x o k = some q') :
    q' = q.crash ∨
      (q.wait ≠ 0 ∧ q' = k { q with wait := q.wait - 1, outcomes := q.outcomes ++ [(x, o)] }) := by
  unfold done at h
  split at h
  · exact .inl (Option.some_inj.mp h).symm
  · exact .inr ⟨‹_›, (Option.some_inj.mp h).symm⟩

theorem finishAdapter_eq (q : Queue) : ∃ a p e,
    q.finishAdapter = { q with adapter := a, adapterInProgress := p, ended := e } := by
  unfold finishAdapter
  split <;> exact ⟨_, _, _, rfl⟩

theorem useAdapter_eq (q : Queue) (name : String) : ∃ a p e,
    q.useAdapter name = { q with adapter := a, adapterInProgress := p, ended := e } := by
  unfold useAdapter
  split
  · split
    · exact ⟨_, _, _, rfl⟩
    · obtain ⟨a, p, e, h⟩ := q.finishAdapter_eq
      exact ⟨some name, p, e, by rw [h]⟩
  · exact ⟨_, _, _, rfl⟩

theorem add_spec {t : Transferable} (h : q.add t = some q') :
    q.waitPc = .idle ∧ ((t.oid ∈ q.keys ∧ q' = q) ∨
      (t.oid ∉ q.keys ∧ q' = { q with wait := q.wait + 1, transferables := q.transferables ++ [t],
                                      adding := q.adding ++ [t] })) := by
  unfold add at h
  split at h
  · cases h
  · split at h <;> cases h
    · exact ⟨by simpa using ‹¬q.waitPc ≠ .idle›, .inl ⟨‹_›, rfl⟩⟩
    · exact ⟨by simpa using ‹¬q.waitPc ≠ .idle›, .inr ⟨‹_›, rfl⟩⟩

theorem send_spec {t : Transferable} (h : q.send c t = some q') :
    t ∈ q.adding ∧ (q' = q.crash ∨ (q.incomingClosed = false ∧
      q' = { q with adding := q.adding.erase t, incoming := q.incoming ++ [t],
                    sent := q.sent ++ [t] })) := by
  unfold send at h
  split at h
  · cases h
  · refine ⟨by simpa using ‹¬t ∉ q.adding›, ?_⟩
    split at h
    · cases h; exact .inl rfl
    · split at h
      · cases h; exact .inr ⟨by simpa using ‹¬q.incomingClosed = true›, rfl⟩
      · cases h

theorem receive_spec (h : q.receive c = some q') : ∃ batch, q.collector = .fill false batch ∧
    batch.isFull c.batchSize = false ∧ ((∃ t rest, q.incoming = t :: rest ∧
        q' = { q with incoming := rest, collector := .fill false (batch ++ [t]) }) ∨
      (q.incoming = [] ∧ q.incomingClosed = true ∧ q' = { q with collector := .fill true batch })) := by
  unfold receive at h
  split at h
  · split at h
    · cases h
    · have hf := Bool.eq_false_iff.mpr ‹_›
      split at h
      · cases h; exact ⟨_, ‹_›, hf, .inl ⟨_, _, ‹_›, rfl⟩⟩
      · split at h <;> cases h; exact ⟨_, ‹_›, hf, .inr ⟨‹_›, ‹_›, rfl⟩⟩
  · cases h

theorem dispatch_spec (h : q.dispatch c = some q') : ∃ closing batch,
    q.collector = .fill closing batch ∧ (closing || batch.isFull c.batchSize) = true ∧
      q' = { q with collector := .negotiate closing batch.sortDesc } := by
  unfold dispatch at h
  split at h
  · split at h <;> cases h; exact ⟨_, _, ‹_›, ‹_›, rfl⟩
  · cases h

theorem negotiate_spec {r : Except Err (String × List ObjectResource)}
    (h : q.negotiate r = some q') : ∃ closing batch, q.collector = .negotiate closing batch ∧
      ((∃ e, r = .error e ∧
          q' = { q with calls := q.calls ++ [batch], collector := .requeue closing e batch [] }) ∨
        (∃ name objs, r = .ok (name, objs) ∧
          q' = { q.useAdapter name with calls := q.calls ++ [batch],
                                        collector := .scan closing objs [] })) := by
  unfold negotiate at h
  split at h
  · split at h <;> cases h
    · exact ⟨_, _, ‹_›, .inl ⟨_, rfl, rfl⟩⟩
    · exact ⟨_, _, ‹_›, .inr ⟨_, _, rfl, rfl⟩⟩
  · cases h

theorem requeue_spec (h : q.requeue = some q') : ∃ closing e next,
    (∃ t rest, q.collector = .requeue closing e (t :: rest) next ∧
      ((canRetryObject q.rc t.oid e = true ∧
          q' = { q with rc := q.rc.increment t.oid,
                        collector := .requeue closing e rest (next ++ [t]) }) ∨
        (canRetryObject q.rc t.oid e = false ∧
          q.done t.oid .batchFailed (fun q => { q with collector := .requeue closing e rest next })
            = some q'))) ∨
    (q.collector = .requeue closing e [] next ∧ q' = { q with collector := .forward closing e next }) := by
  unfold requeue at h
  split at h
  · split at h
    · cases h; exact ⟨_, _, _, .inl ⟨_, _, ‹_›, .inl ⟨‹_›, rfl⟩⟩⟩
    · exact ⟨_, _, _, .inl ⟨_, _, ‹_›, .inr ⟨Bool.eq_false_iff.mpr ‹_›, h⟩⟩⟩
  · cases h; exact ⟨_, _, _, .inr ⟨‹_›, rfl⟩⟩
  · cases h

theorem forward_spec (h : q.forward = some q') : ∃ closing e next,
    q.collector = .forward closing e next ∧
      q.sendError (.batch e) (fun q => { q with collector := Tq.endRound closing next }) = some q' := by
  unfold forward at h
  split at h
  · exact ⟨_, _, _, ‹_›, h⟩
  · cases h

theorem scan_spec (h : q.scan c = some q') : ∃ closing tt,
    (∃ objs, q.collector = .scan closing objs tt ∧ objs = [] ∧
      q' = { q with collector := .begin closing tt }) ∨
    ∃ o objs, q.collector = .scan closing (o :: objs) tt ∧
      ((∃ e, dispose (transferKind c.direction) q.lookup o = .fail e ∧
          q.sendError (.object o.oid e)
            (fun q => { q with collector := .skip closing o.oid objs tt }) = some q') ∨
        (dispose (transferKind c.direction) q.lookup o = .skip ∧
          q.done o.oid .skipped (fun q => { q with collector := .scan closing objs tt }) = some q') ∨
        (∃ t, dispose (transferKind c.direction) q.lookup o = .transfer t ∧
          q' = { q with collector := .scan closing objs (tt ++ [t]) }) ∨
        (dispose (transferKind c.direction) q.lookup o = .nilTransferable ∧ q' = q.crash)) := by
  unfold scan at h
  split at h
  · cases h; exact ⟨_, _, .inl ⟨_, ‹_›, rfl, rfl⟩⟩
  · split at h
    · exact ⟨_, _, .inr ⟨_, _, ‹_›, .inl ⟨_, ‹_›, h⟩⟩⟩
    · exact ⟨_, _, .inr ⟨_, _, ‹_›, .inr (.inl ⟨‹_›, h⟩)⟩⟩
    · cases h; exact ⟨_, _, .inr ⟨_, _, ‹_›, .inr (.inr (.inl ⟨_, ‹_›, rfl⟩))⟩⟩
    · cases h; exact ⟨_, _, .inr ⟨_, _, ‹_›, .inr (.inr (.inr ⟨‹_›, rfl⟩))⟩⟩
  · cases h

theorem skip_spec (h : q.skip = some q') : ∃ closing x objs tt,
    q.collector = .skip closing x objs tt ∧
      q.done x .objectFailed (fun q => { q with collector := .scan closing objs tt }) = some q' := by
  unfold skip at h
  split at h
  · exact ⟨_, _, _, _, ‹_›, h⟩
  · cases h

theorem begin_spec {r : Option Err} (h : q.begin c r = some q') : ∃ closing pending,
    q.collector = .begin closing pending ∧
      ((q.adapterInProgress = true ∧ q' = q.spawn c closing pending) ∨
        (q.adapterInProgress = false ∧ q.adapter = none ∧ q' = q.crash) ∨
        (q.adapterInProgress = false ∧ q.adapter.isSome ∧ r = none ∧
          q' = { q with adapterInProgress := true, begun := q.begun + 1 }.spawn c closing pending) ∨
        (∃ e, q.adapterInProgress = false ∧ q.adapter.isSome ∧ r = some e ∧
          q' = { q with collector := .abandon closing e pending })) := by
  unfold begin at h
  split at h
  · split at h
    · cases h; exact ⟨_, _, ‹_›, .inl ⟨‹_›, rfl⟩⟩
    · have hp : q.adapterInProgress = false := by simpa using ‹¬q.adapterInProgress = true›
      split at h <;> cases h
      · exact ⟨_, _, ‹_›, .inr (.inl ⟨hp, ‹_›, rfl⟩)⟩
      · exact ⟨_, _, ‹_›, .inr (.inr (.inl ⟨hp, by simp [‹q.adapter = _›], rfl, rfl⟩))⟩
      · exact ⟨_, _, ‹_›, .inr (.inr (.inr ⟨_, hp, by simp [‹q.adapter = _›], rfl, rfl⟩))⟩
  · cases h

theorem abandon_spec (h : q.abandon = some q') : ∃ closing e pending,
    q.collector = .abandon closing e pending ∧
      q.sendError (.begin e) (fun q => { q with collector := .drop closing pending }) = some q' := by
  unfold abandon at h
  split at h
  · exact ⟨_, _, _, ‹_›, h⟩
  · cases h

theorem drop_spec (h : q.drop = some q') : ∃ closing,
    (∃ t rest, q.collector = .drop closing (t :: rest) ∧
      q.done t.oid .beginFailed (fun q => { q with collector := .drop closing rest }) = some q') ∨
    (q.collector = .drop closing [] ∧ q' = { q with collector := Tq.endRound closing [] }) := by
  unfold drop at h
  split at h
  · exact ⟨_, .inl ⟨_, _, ‹_›, h⟩⟩
  · cases h; exact ⟨_, .inr ⟨‹_›, rfl⟩⟩
  · cases h

theorem result_spec {t : Transferable} {err : Option Err} (h : q.result c t err = some q') :
    ∃ closing next retries pending,
      q.collector = .collect closing next ⟨retries, .running pending .idle⟩ ∧ t ∈ pending ∧
      ¬(c.dryRun = true ∧ err.isSome = true) ∧
      let set (retries : Batch) (h : Handling) :=
        q.setResults closing next ⟨retries, .running (pending.erase t) h⟩
      ((err = none ∧ q' = set retries (.notify t 0)) ∨
        ∃ e, err = some e ∧
          ((canRetryObject q.rc t.oid e = true ∧
              ((∃ t', q.lookup t.oid = some t' ∧ q' = set (retries ++ [t']) .idle) ∨
                (q.lookup t.oid = none ∧ q' = set retries (.report t e false)))) ∨
            (canRetryObject q.rc t.oid e = false ∧ q' = set retries (.report t e true)))) := by
  unfold result at h
  split at h
  · split at h
    · cases h
    · rename_i hcond
      simp only [not_or, not_not] at hcond
      refine ⟨_, _, _, _, ‹_›, hcond.1, hcond.2, ?_⟩
      split at h
      · cases h; exact .inl ⟨rfl, rfl⟩
      · split at h
        · split at h <;> cases h
          · exact .inr ⟨_, rfl, .inl ⟨‹_›, .inl ⟨_, ‹_›, rfl⟩⟩⟩
          · exact .inr ⟨_, rfl, .inl ⟨‹_›, .inr ⟨‹_›, rfl⟩⟩⟩
        · cases h; exact .inr ⟨_, rfl, .inr ⟨Bool.eq_false_iff.mpr ‹_›, rfl⟩⟩
  · cases h

theorem notify_spec (h : q.notify c = some q') : ∃ closing next retries pending t k,
    q.collector = .collect closing next ⟨retries, .running pending (.notify t k)⟩ ∧
      ((q.watchers[k]? = none ∧
          q' = q.setResults closing next ⟨retries, .running pending (.finish t .succeeded)⟩) ∨
        (∃ w, q.watchers[k]? = some w ∧ w.closed = true ∧ q' = q.crash) ∨
        (∃ w, q.watchers[k]? = some w ∧ w.closed = false ∧ w.buf.length < max c.batchSize 1 ∧
          q' = { q.setResults closing next ⟨retries, .running pending (.notify t (k + 1))⟩ with
                 watchers := q.watchers.set k { w with buf := w.buf ++ [t.oid],
                                                       sent := w.sent ++ [t.oid] } })) := by
  unfold notify at h
  split at h
  · split at h
    · cases h; exact ⟨_, _, _, _, _, _, ‹_›, .inl ⟨‹_›, rfl⟩⟩
    · split at h
      · cases h; exact ⟨_, _, _, _, _, _, ‹_›, .inr (.inl ⟨_, ‹_›, ‹_›, rfl⟩)⟩
      · split at h <;> cases h
        exact ⟨_, _, _, _, _, _, ‹_›, .inr (.inr ⟨_, ‹_›, Bool.eq_false_iff.mpr ‹_›, ‹_›, rfl⟩)⟩
  · cases h

theorem report_spec (h : q.report = some q') : ∃ closing next retries pending t e d,
    q.collector = .collect closing next ⟨retries, .running pending (.report t e d)⟩ ∧
      q.sendError (.transfer t.oid e) (fun q => q.setResults closing next
        ⟨retries, .running pending (if d then .finish t .transferFailed else .idle)⟩) = some q' := by
  unfold report at h
  split at h
  · exact ⟨_, _, _, _, _, _, _, ‹_›, h⟩
  · cases h

theorem finish_spec (h : q.finish = some q') : ∃ closing next retries pending t o,
    q.collector = .collect closing next ⟨retries, .running pending (.finish t o)⟩ ∧
      q.done t.oid o (fun q => q.setResults closing next ⟨retries, .running pending .idle⟩)
        = some q' := by
  unfold finish at h
  split at h
  · exact ⟨_, _, _, _, _, _, ‹_›, h⟩
  · cases h

theorem closeRetries_spec (h : q.closeRetries = some q') : ∃ closing next retries,
    q.collector = .collect closing next ⟨retries, .running [] .idle⟩ ∧
      q' = q.setResults closing next ⟨retries, .closed⟩ := by
  unfold closeRetries at h
  split at h
  · cases h; exact ⟨_, _, _, ‹_›, rfl⟩
  · cases h

theorem retry_spec (h : q.retry = some q') : ∃ closing next t rest f,
    q.collector = .collect closing next ⟨t :: rest, f⟩ ∧
      q' = { q.setResults closing (next ++ [t]) ⟨rest, f⟩ with rc := q.rc.increment t.oid } := by
  unfold retry at h
  split at h
  · cases h; exact ⟨_, _, _, _, _, ‹_›, rfl⟩
  · cases h

theorem endRound_spec (h : q.endRound = some q') : ∃ closing next,
    q.collector = .collect closing next ⟨[], .closed⟩ ∧
      q' = { q with collector := Tq.endRound closing next } := by
  unfold endRound at h
  split at h
  · cases h; exact ⟨_, _, ‹_›, rfl⟩
  · cases h

theorem waitStart_spec (h : q.waitStart = some q') :
    q.waitPc = .idle ∧ q.adding = [] ∧
      (q' = q.crash ∨ q' = { q with incomingClosed := true, waitPc := .drain }) := by
  unfold waitStart at h
  split at h
  · split at h <;> cases h
    · exact ⟨‹_ ∧ _›.1, ‹_ ∧ _›.2, .inl rfl⟩
    · exact ⟨‹_ ∧ _›.1, ‹_ ∧ _›.2, .inr rfl⟩
  · cases h

theorem waitWake_spec (h : q.waitWake = some q') :
    q.waitPc = .drain ∧ q.wait = 0 ∧ q' = { q with waitPc := .finish } := by
  unfold waitWake at h
  split at h <;> cases h
  exact ⟨‹_ ∧ _›.1, ‹_ ∧ _›.2, rfl⟩

theorem finishAdapterStep_spec (h : q.finishAdapterStep = some q') :
    q.waitPc = .finish ∧ q' = { q.finishAdapter with waitPc := .close } := by
  unfold finishAdapterStep at h
  split at h <;> cases h
  exact ⟨‹_›, rfl⟩

theorem closeErrors_spec (h : q.closeErrors = some q') :
    q.waitPc = .close ∧ (q' = q.crash ∨ (q.errorcClosed = false ∧
      q' = { q with errorcClosed := true, waitPc := .join,
                    watchers := q.watchers.map fun w => { w with closed := true } })) := by
  unfold closeErrors at h
  split at h
  · split at h <;> cases h
    · exact ⟨‹_›, .inl rfl⟩
    · exact ⟨‹_›, .inr ⟨Bool.eq_false_iff.mpr ‹_›, rfl⟩⟩
  · cases h

theorem waitReturn_spec (h : q.waitReturn = some q') :
    q.waitPc = .join ∧ q.errorsDone = true ∧ q' = { q with waitPc := .returned } := by
  unfold waitReturn at h
  split at h <;> cases h
  exact ⟨‹_ ∧ _›.1, ‹_ ∧ _›.2, rfl⟩

theorem collectError_spec (h : q.collectError = some q') : ∃ e,
    q.holding = some e ∧ q' = { q with errors := q.errors ++ [e], holding := none } := by
  unfold collectError at h
  split at h
  · cases h; exact ⟨_, ‹_›, rfl⟩
  · cases h

theorem collectorExit_spec (h : q.collectorExit = some q') :
    q.errorcClosed = true ∧ q.holding = none ∧ q' = { q with errorsDone := true } := by
  unfold collectorExit at h
  split at h <;> cases h
  rename_i hc
  exact ⟨hc.1, hc.2.1, rfl⟩

theorem consume_spec {w : Nat} (h : q.consume w = some q') : ∃ v o rest,
    q.watchers[w]? = some v ∧ v.buf = o :: rest ∧
      q' = { q with watchers := q.watchers.set w { v with buf := rest } } := by
  unfold consume at h
  split at h
  · split at h
    · cases h; exact ⟨_, _, _, ‹_›, ‹_›, rfl⟩
    · cases h
  · cases h

end Queue

end GitLfs.Tq
