import GitLfs.TransferQueue.Spec

/-! # Where each step moves the added oids

Every step either moves oids between the places of `pipeline`, closes one out (it goes
from `pipeline` to `terminal`), or, for a new `Add`, adds a key together with its place.
These lemmas say which, action by action; `step_accounted` puts them together.
-/

namespace GitLfs.Tq

theorem oids_perm_erase {b : Batch} {t : Transferable} (h : t ∈ b) :
    List.Perm (oids b) (t.oid :: oids (b.erase t)) :=
  (List.perm_cons_erase h).map _

theorem count_oids_erase {b : Batch} {t : Transferable} (h : t ∈ b) (x : Oid) :
    (oids (b.erase t)).count x + (if t.oid = x then 1 else 0) = (oids b).count x := by
  rw [(oids_perm_erase h).count_eq, List.count_cons]
  simp only [beq_iff_eq]

@[simp] theorem count_oids_sortDesc (b : Batch) (x : Oid) :
    (oids b.sortDesc).count x = (oids b).count x :=
  ((Batch.sortDesc_perm b).map _).count_eq x

@[simp] theorem length_sortDesc (b : Batch) : b.sortDesc.length = b.length :=
  (Batch.sortDesc_perm b).length_eq

@[simp] theorem oids_endRound (closing : Bool) (next : Batch) :
    (endRound closing next).oids = oids next := by
  unfold endRound
  split
  · rename_i h
    simp only [Bool.and_eq_true, List.isEmpty_iff] at h
    simp [h.2]
  · rfl

theorem dispose_transfer {kind : String} {lookup : Oid → Option Transferable}
    {o : ObjectResource} {t : Transferable} (h : dispose kind lookup o = .transfer t) :
    lookup o.oid = some t := by
  unfold dispose at h
  split at h
  · cases h
  · split at h
    · split at h
      · cases h; assumption
      · cases h
    · cases h

/-- The batch `collectBatches` is about to negotiate. -/
def Collector.negotiating : Collector → Batch
  | .negotiate _ b => b
  | _ => []

namespace Queue

variable {c : Config} {q q' : Queue}

/-- How many times an oid is held: once for each place it is in, and once if it was closed
out. -/
def held (q : Queue) (x : Oid) : Nat := q.pipeline.count x + q.terminal.count x

/-- The wait counter plus the closed-out oids: what `Add` has counted. -/
def owed (q : Queue) : Nat := q.wait + q.outcomes.length

/-- A step that moves oids between places or closes one out, and adds no key. -/
structure Moves (q q' : Queue) : Prop where
  held : ∀ x, q'.held x = q.held x
  owed : q'.owed = q.owed
  keys : q'.keys = q.keys
  outcomes : q.outcomes <+: q'.outcomes

theorem Moves.crash : Moves q q.crash := ⟨fun _ => rfl, rfl, rfl, List.prefix_refl _⟩

theorem Moves.wait_le (h : Moves q q') : q'.wait ≤ q.wait := by
  have h₁ := h.owed
  have h₂ := h.outcomes.length_le
  unfold Queue.owed at h₁
  omega

theorem moves_of (hw : q'.wait = q.wait) (ho : q'.outcomes = q.outcomes)
    (ht : q'.transferables = q.transferables)
    (hp : ∀ x, q'.pipeline.count x = q.pipeline.count x) : Moves q q' :=
  ⟨fun x => by simp [held, terminal, ho, hp], by simp [owed, hw, ho], by simp [keys, ht],
    ho ▸ List.prefix_refl _⟩

theorem moves_done {y : Oid} {o : Outcome} (hw : q'.wait + 1 = q.wait)
    (ho : q'.outcomes = q.outcomes ++ [(y, o)]) (ht : q'.transferables = q.transferables)
    (hp : ∀ x, q'.pipeline.count x + (if y = x then 1 else 0) = q.pipeline.count x) :
    Moves q q' := by
  refine ⟨fun x => ?_, by simp [owed, ho]; omega, by simp [keys, ht], ho ▸ List.prefix_append _ _⟩
  have := hp x
  simp [held, terminal, ho, List.count_cons]
  omega

theorem moves_of_done {y : Oid} {o : Outcome} {k : Queue → Queue} (h : q.done y o k = some q')
    (hk : ∀ q₀ : Queue, (k q₀).wait = q₀.wait ∧ (k q₀).outcomes = q₀.outcomes ∧
      (k q₀).transferables = q₀.transferables)
    (hp : ∀ q₀ : Queue, q₀.adding = q.adding → q₀.incoming = q.incoming →
      q₀.collector = q.collector → ∀ x,
        (k q₀).pipeline.count x + (if y = x then 1 else 0) = q₀.pipeline.count x) :
    Moves q q' := by
  rcases done_cases h with rfl | ⟨hw, rfl⟩
  · exact .crash
  · let q₀ := { q with wait := q.wait - 1, outcomes := q.outcomes ++ [(y, o)] }
    obtain ⟨h₁, h₂, h₃⟩ := hk q₀
    exact moves_done (by rw [h₁]; show q.wait - 1 + 1 = q.wait; omega) (by rw [h₂]) (by rw [h₃])
      fun x => hp q₀ rfl rfl rfl x

theorem moves_of_sendError {e : QueueError} {k : Queue → Queue} (h : q.sendError e k = some q')
    (hk : ∀ q₀ : Queue, (k q₀).wait = q₀.wait ∧ (k q₀).outcomes = q₀.outcomes ∧
      (k q₀).transferables = q₀.transferables)
    (hp : ∀ x, (k { q with holding := some e }).pipeline.count x = q.pipeline.count x) :
    Moves q q' := by
  rcases sendError_cases h with rfl | ⟨-, -, rfl⟩
  · exact .crash
  · obtain ⟨h₁, h₂, h₃⟩ := hk { q with holding := some e }
    exact moves_of h₁ h₂ h₃ hp

/-! ### The ledger, action by action -/

theorem add_held {t : Transferable} (h : q.add t = some q') :
    q'.owed + q.keys.length = q.owed + q'.keys.length ∧
      ∀ x, q'.held x + q.keys.count x = q.held x + q'.keys.count x := by
  obtain ⟨-, ⟨-, rfl⟩ | ⟨-, rfl⟩⟩ := add_spec h
  · exact ⟨rfl, fun _ => rfl⟩
  · refine ⟨by simp [owed, keys]; omega, fun x => ?_⟩
    simp [held, pipeline, keys, terminal, List.count_cons]; omega

theorem send_moves {t : Transferable} (h : q.send c t = some q') : Moves q q' := by
  obtain ⟨hm, rfl | ⟨-, rfl⟩⟩ := send_spec h
  · exact .crash
  · refine moves_of rfl rfl rfl fun x => ?_
    have := count_oids_erase hm x
    simp [pipeline, List.count_cons] at this ⊢; omega

theorem receive_moves (h : q.receive c = some q') : Moves q q' := by
  obtain ⟨batch, hq, -, ⟨t, rest, hi, rfl⟩ | ⟨-, -, rfl⟩⟩ := receive_spec h
  · exact moves_of rfl rfl rfl fun x => by simp [pipeline, hq, hi, List.count_cons]; omega
  · exact moves_of rfl rfl rfl fun x => by simp [pipeline, hq]

theorem dispatch_moves (h : q.dispatch c = some q') : Moves q q' := by
  obtain ⟨closing, batch, hq, -, rfl⟩ := dispatch_spec h
  exact moves_of rfl rfl rfl fun x => by simp [pipeline, hq]

theorem negotiate_moves {r : Except Err (String × List ObjectResource)}
    (h : q.negotiate r = some q')
    (hc : ∀ name objs, r = .ok (name, objs) →
      List.Perm (objs.map (·.oid)) (oids q.collector.negotiating)) : Moves q q' := by
  obtain ⟨closing, batch, hq, ⟨e, -, rfl⟩ | ⟨name, objs, rfl, rfl⟩⟩ := negotiate_spec h
  · exact moves_of rfl rfl rfl fun x => by simp [pipeline, hq]
  · obtain ⟨a, p, e, hu⟩ := q.useAdapter_eq name
    have := (hc _ _ rfl).count_eq
    exact moves_of (by simp [hu]) (by simp [hu]) (by simp [hu]) fun x => by
      simp_all [pipeline, Collector.negotiating]

theorem requeue_moves (h : q.requeue = some q') : Moves q q' := by
  obtain ⟨closing, e, next, ⟨t, rest, hq, ⟨-, rfl⟩ | ⟨-, hd⟩⟩ | ⟨hq, rfl⟩⟩ := requeue_spec h
  · exact moves_of rfl rfl rfl fun x => by simp [pipeline, hq, List.count_cons]; omega
  · exact moves_of_done hd (fun _ => ⟨rfl, rfl, rfl⟩) fun q₀ h₁ h₂ h₃ x => by
      simp [pipeline, h₁, h₂, h₃, hq, List.count_cons]; omega
  · exact moves_of rfl rfl rfl fun x => by simp [pipeline, hq]

theorem forward_moves (h : q.forward = some q') : Moves q q' := by
  obtain ⟨closing, e, next, hq, hs⟩ := forward_spec h
  exact moves_of_sendError hs (fun _ => ⟨rfl, rfl, rfl⟩) fun x => by simp [pipeline, hq]

theorem scan_moves (h : q.scan c = some q') : Moves q q' := by
  obtain ⟨closing, tt, ⟨objs, hq, rfl, rfl⟩ | ⟨o, objs, hq, hc⟩⟩ := scan_spec h
  · exact moves_of rfl rfl rfl fun x => by simp [pipeline, hq]
  · rcases hc with ⟨e, -, hs⟩ | ⟨-, hd⟩ | ⟨t, ht, rfl⟩ | ⟨-, rfl⟩
    · exact moves_of_sendError hs (fun _ => ⟨rfl, rfl, rfl⟩) fun x => by simp [pipeline, hq]
    · exact moves_of_done hd (fun _ => ⟨rfl, rfl, rfl⟩) fun q₀ h₁ h₂ h₃ x => by
        simp [pipeline, h₁, h₂, h₃, hq, List.count_cons]; omega
    · have := q.lookup_oid (dispose_transfer ht)
      exact moves_of rfl rfl rfl fun x => by simp [pipeline, hq, this, List.count_cons]; omega
    · exact .crash

theorem skip_moves (h : q.skip = some q') : Moves q q' := by
  obtain ⟨closing, y, objs, tt, hq, hd⟩ := skip_spec h
  exact moves_of_done hd (fun _ => ⟨rfl, rfl, rfl⟩) fun q₀ h₁ h₂ h₃ x => by
    simp [pipeline, h₁, h₂, h₃, hq, List.count_cons]; omega

theorem begin_moves {r : Option Err} (h : q.begin c r = some q') : Moves q q' := by
  obtain ⟨closing, pending, hq, ⟨-, rfl⟩ | ⟨-, -, rfl⟩ | ⟨-, -, -, rfl⟩ | ⟨e, -, -, -, rfl⟩⟩ :=
    begin_spec h
  · exact moves_of rfl rfl rfl fun x => by simp [pipeline, hq, spawn]
  · exact .crash
  · exact moves_of rfl rfl rfl fun x => by simp [pipeline, hq, spawn]
  · exact moves_of rfl rfl rfl fun x => by simp [pipeline, hq]

theorem abandon_moves (h : q.abandon = some q') : Moves q q' := by
  obtain ⟨closing, e, pending, hq, hs⟩ := abandon_spec h
  exact moves_of_sendError hs (fun _ => ⟨rfl, rfl, rfl⟩) fun x => by simp [pipeline, hq]

theorem drop_moves (h : q.drop = some q') : Moves q q' := by
  obtain ⟨closing, ⟨t, rest, hq, hd⟩ | ⟨hq, rfl⟩⟩ := drop_spec h
  · exact moves_of_done hd (fun _ => ⟨rfl, rfl, rfl⟩) fun q₀ h₁ h₂ h₃ x => by
      simp [pipeline, h₁, h₂, h₃, hq, List.count_cons]; omega
  · exact moves_of rfl rfl rfl fun x => by simp [pipeline, hq]

theorem result_moves {t : Transferable} {err : Option Err} (h : q.result c t err = some q')
    (hk : ∀ x ∈ q.pipeline, x ∈ q.keys) : Moves q q' := by
  obtain ⟨closing, next, retries, pending, hq, hm, -, hc⟩ := result_spec h
  have he := count_oids_erase hm
  have hl : (q.lookup t.oid).isSome :=
    q.lookup_isSome (hk _ (by simp [pipeline, hq, mem_oids_of_mem hm]))
  rcases hc with ⟨-, rfl⟩ | ⟨e, -, ⟨-, ⟨t', hl', rfl⟩ | ⟨hn, rfl⟩⟩ | ⟨-, rfl⟩⟩
  · exact moves_of rfl rfl rfl fun x => by
      have := he x; simp [pipeline, hq, setResults, List.count_cons] at this ⊢; omega
  · have ht := q.lookup_oid hl'
    exact moves_of rfl rfl rfl fun x => by
      have := he x; simp [pipeline, hq, setResults, ht, List.count_cons] at this ⊢; omega
  · simp [hn] at hl
  · exact moves_of rfl rfl rfl fun x => by
      have := he x; simp [pipeline, hq, setResults, List.count_cons] at this ⊢; omega

theorem notify_moves (h : q.notify c = some q') : Moves q q' := by
  obtain ⟨closing, next, retries, pending, t, k, hq, ⟨-, rfl⟩ | ⟨w, -, -, rfl⟩ | ⟨w, -, -, -, rfl⟩⟩ :=
    notify_spec h
  · exact moves_of rfl rfl rfl fun x => by simp [pipeline, hq, setResults]
  · exact .crash
  · exact moves_of rfl rfl rfl fun x => by simp [pipeline, hq, setResults]

theorem report_moves (h : q.report = some q') : Moves q q' := by
  obtain ⟨closing, next, retries, pending, t, e, d, hq, hs⟩ := report_spec h
  exact moves_of_sendError hs (fun _ => ⟨rfl, rfl, rfl⟩) fun x => by
    cases d <;> simp [pipeline, hq, setResults]

theorem finish_moves (h : q.finish = some q') : Moves q q' := by
  obtain ⟨closing, next, retries, pending, t, o, hq, hd⟩ := finish_spec h
  exact moves_of_done hd (fun _ => ⟨rfl, rfl, rfl⟩) fun q₀ h₁ h₂ h₃ x => by
    simp [pipeline, h₁, h₂, h₃, hq, setResults, List.count_cons]; omega

theorem closeRetries_moves (h : q.closeRetries = some q') : Moves q q' := by
  obtain ⟨closing, next, retries, hq, rfl⟩ := closeRetries_spec h
  exact moves_of rfl rfl rfl fun x => by simp [pipeline, hq, setResults]

theorem retry_moves (h : q.retry = some q') : Moves q q' := by
  obtain ⟨closing, next, t, rest, f, hq, rfl⟩ := retry_spec h
  exact moves_of rfl rfl rfl fun x => by simp [pipeline, hq, setResults, List.count_cons]

theorem endRound_moves (h : q.endRound = some q') : Moves q q' := by
  obtain ⟨closing, next, hq, rfl⟩ := endRound_spec h
  exact moves_of rfl rfl rfl fun x => by simp [pipeline, hq]

end Queue

end GitLfs.Tq
