import GitLfs.TransferQueue.Basic

/-! # What `fetch` reports on its out channel

`readyAndMissingPointers` keeps the allowed pointers, one per oid, and splits them by
whether the object is already stored. `fetchAndReportToChan` reports the ready ones at
once and, for each oid the download queue reports done, the pointers it was fetched for.
The oid-to-pointers map is built from the deduplicated list, so a second path to the same
content is never reported.
-/

namespace GitLfs.Commands

open Tq (Oid)

/-- `lfs.WrappedPointer`, with what `fetch` reads of it. -/
structure WrappedPointer where
  name : String
  oid : Oid
  size : Int
  deriving DecidableEq, Repr

/-- The locals of the loop of `readyAndMissingPointers`. -/
structure PointerScan where
  seen : List Oid
  ready : List WrappedPointer
  missing : List WrappedPointer
  size : Int

/-- One pointer of the loop. `allows` is `filter.Allows`; `stored` is
`ObjectExistsOfSize` after `LinkOrCopyFromReference`. -/
def scanPointer (allows : String → Bool) (stored : Oid → Int → Bool) (s : PointerScan)
    (p : WrappedPointer) : PointerScan :=
  if !allows p.name then s
  else if p.oid ∈ s.seen then s
  else if stored p.oid p.size then { s with seen := s.seen ++ [p.oid], ready := s.ready ++ [p] }
  else { s with seen := s.seen ++ [p.oid], missing := s.missing ++ [p], size := s.size + p.size }

def readyAndMissingPointers (allows : String → Bool) (stored : Oid → Int → Bool)
    (allpointers : List WrappedPointer) : List WrappedPointer × List WrappedPointer × Int :=
  let s := allpointers.foldl (scanPointer allows stored) ⟨[], [], [], 0⟩
  (s.ready, s.missing, s.size)

/-- `oidToPointers[oid]`: the map is built by appending each pointer to its oid's slice. -/
def oidToPointers (pointers : List WrappedPointer) (oid : Oid) : List WrappedPointer :=
  pointers.filter (·.oid == oid)

/-- What `fetchAndReportToChan` sends on `out` before closing it, given the oids the
download queue reports on its watch channel: the ready pointers, from the caller, then the
pointers of each reported oid, from the goroutine ranging over `dlwatch`. -/
def fetchReports (allows : String → Bool) (stored : Oid → Int → Bool)
    (allpointers : List WrappedPointer) (watched : List Oid) : List WrappedPointer :=
  let (ready, pointers, _) := readyAndMissingPointers allows stored allpointers
  ready ++ watched.flatMap (oidToPointers pointers)

theorem scanPointer_seen (allows : String → Bool) (stored : Oid → Int → Bool) :
    ∀ (ps : List WrappedPointer) (s : PointerScan), s.seen.Nodup →
      ((s.ready ++ s.missing).map (·.oid)).Perm s.seen →
      let s' := ps.foldl (scanPointer allows stored) s
      s'.seen.Nodup ∧ ((s'.ready ++ s'.missing).map (·.oid)).Perm s'.seen
  | [], _, hn, hp => ⟨hn, hp⟩
  | p :: ps, s, hn, hp => by
    refine scanPointer_seen allows stored ps _ ?_ ?_ <;> unfold scanPointer <;>
      split_ifs with h₁ h₂ h₃
    all_goals first | exact hn | exact hp | skip
    · exact hn.append (List.nodup_singleton _) (List.disjoint_singleton.mpr h₂)
    · exact hn.append (List.nodup_singleton _) (List.disjoint_singleton.mpr h₂)
    · have h : (s.ready.map (·.oid) ++ p.oid :: s.missing.map (·.oid)).Perm (s.seen ++ [p.oid]) :=
        ((List.perm_append_singleton _ _).symm.append_left _).trans
          (by simpa using hp.append_right [p.oid])
      simpa using h
    · simpa using hp.append_right [p.oid]

theorem oids_nodup_readyAndMissing (allows : String → Bool) (stored : Oid → Int → Bool)
    (allpointers : List WrappedPointer) :
    let r := readyAndMissingPointers allows stored allpointers
    ((r.1 ++ r.2.1).map (·.oid)).Nodup := by
  obtain ⟨hn, hp⟩ := scanPointer_seen allows stored allpointers ⟨[], [], [], 0⟩ List.nodup_nil
    (by simp)
  exact hp.nodup_iff.mpr hn

theorem oidToPointers_oids {pointers : List WrappedPointer} (h : (pointers.map (·.oid)).Nodup)
    (oid : Oid) : (oidToPointers pointers oid).map (·.oid) =
      if oid ∈ pointers.map (·.oid) then [oid] else [] := by
  induction pointers with
  | nil => simp [oidToPointers]
  | cons p ps ih =>
    simp only [List.map_cons, List.nodup_cons] at h
    have := ih h.2
    simp only [oidToPointers, List.filter_cons, beq_iff_eq, List.map_cons, List.mem_cons] at this ⊢
    by_cases hp : p.oid = oid
    · subst hp
      simp only [if_true, true_or, List.map_cons, this, if_neg h.1]
    · simp only [hp, if_false, this, Ne.symm hp, false_or]

/-- `fetchAndReportToChan` reports at most one pointer per oid when the download queue
reports each oid at most once: of two pointers to the same content, at most one is ever
sent on `out`. -/
theorem fetchReports_oids_nodup (allows : String → Bool) (stored : Oid → Int → Bool)
    (allpointers : List WrappedPointer) {watched : List Oid} (hw : watched.Nodup) :
    ((fetchReports allows stored allpointers watched).map (·.oid)).Nodup := by
  have hn := oids_nodup_readyAndMissing allows stored allpointers
  unfold fetchReports
  generalize readyAndMissingPointers allows stored allpointers = r at hn
  obtain ⟨ready, missing, size⟩ := r
  simp only [List.map_append, List.nodup_append] at hn
  obtain ⟨hr, hm, hd⟩ := hn
  have hf : (watched.flatMap (oidToPointers missing)).map (·.oid) =
      watched.filter (· ∈ missing.map (·.oid)) := by
    induction watched with
    | nil => rfl
    | cons o os ih =>
      simp only [List.flatMap_cons, List.map_append, oidToPointers_oids hm, ih hw.of_cons,
        List.filter_cons, decide_eq_true_eq]
      split <;> rfl
  simp only [List.map_append, hf, List.nodup_append]
  refine ⟨hr, hw.filter _, fun x hx hx' => hd hx (by simpa using (List.mem_filter.mp hx').2)⟩

theorem fetchReports_two_paths_nodup :
    (["a"] : List Oid).Nodup ∧ ((fetchReports (fun _ => true) (fun _ _ => false)
      [⟨"x", "a", 1⟩, ⟨"y", "a", 1⟩] ["a"]).map (·.oid)).Nodup :=
  ⟨by decide, fetchReports_oids_nodup _ _ _ (by decide)⟩

/-- Two paths to one missing object: both allowed, the download queue reports the oid,
and only the first path is sent on `out`. -/
theorem fetch_drops_second_path :
    fetchReports (fun _ => true) (fun _ _ => false) [⟨"x", "a", 1⟩, ⟨"y", "a", 1⟩] ["a"] =
      [⟨"x", "a", 1⟩] := by
  decide

end GitLfs.Commands
