import GitLfs.Commands.FetchCommand

/-! # What a run of `git lfs fetch` does

A run returns normally exactly when no fetch whose result is kept failed and nothing ended
the process; the fetches of the recent branches are not kept. It is built on `Tallied`, which
each part of the command keeps and `Tallied.bind` composes. `fetchRecent` fetches no commit
twice, whatever order `range` visits its map in.
-/

namespace GitLfs.Commands

open Run

section Tally

variable {α β : Type}

/-- A run that ends the process only by an `Exit` or a `Panic`, and that, when it returns
`x`, says in `p x` whether `b` holds and every fetch it made succeeded. -/
def Tallied (b : Bool) (p : α → Bool) (r : Run α) : Prop :=
  match r.result with
  | some x => p x = (b && r.events.all (!·.failed)) ∧ r.events.all (!·.stops)
  | none => r.events.any (·.stops)

theorem Tallied.pure {b : Bool} {p : α → Bool} {a : α} (h : p a = b) :
    Tallied b p (pure a) := by
  simp [Tallied, h]

theorem Tallied.halt {b : Bool} {p : α → Bool} {ev : Event} (h : ev.stops) :
    Tallied b p (halt ev) := by
  simp [Tallied, h]

theorem Tallied.bind {b : Bool} {p : α → Bool} {q : β → Bool} {r : Run α} {f : α → Run β}
    (hr : Tallied b p r) (hf : ∀ x, r.result = some x → Tallied (p x) q (f x)) :
    Tallied b q (r >>= f) := by
  rw [Run.bind_eq]
  unfold Tallied at hr
  cases h : r.result with
  | none => rw [h] at hr; simpa [Tallied] using hr
  | some x =>
    rw [h] at hr
    dsimp only at hr
    have hfx := hf x h
    unfold Tallied at hfx ⊢
    cases h' : (f x).result with
    | none => rw [h'] at hfx; simp [h', hfx]
    | some y =>
      rw [h'] at hfx
      dsimp only at hfx ⊢
      rw [List.all_append, List.all_append, hfx.1, hr.1, hr.2, hfx.2, Bool.and_assoc]
      exact ⟨rfl, rfl⟩

theorem Tallied.emit {b : Bool} {q : β → Bool} {ev : Event} {f : Unit → Run β}
    (hf : Tallied b q (f ())) (h₁ : ev.failed = false) (h₂ : ev.stops = false) :
    Tallied b q (emit ev >>= f) :=
  Tallied.bind (p := fun _ => b) (by simp [Tallied, h₁, h₂]) fun _ _ => hf

theorem Tallied.weaken {b : Bool} {p : α → Bool} {r : Run α} (h : Tallied true p r) :
    Tallied b (fun x => b && p x) r := by
  unfold Tallied at h ⊢
  split at h <;> simp_all

theorem Tallied.dropResult {p : α → Bool} {r : Run α} (h : Tallied true p r) (b : Bool) :
    Tallied b (fun _ => b) r.dropResult := by
  unfold Tallied at h ⊢
  simp only [dropResult_result, dropResult_events, List.all_map]
  split at h
  · simpa [Function.comp_def] using h.2
  · simpa [List.any_map, Function.comp_def] using h

theorem Tallied.emitIf {b : Bool} {q : β → Bool} {c : Bool} {ev : Event}
    {f : Unit → Run β} (hf : Tallied b q (f ())) (h₁ : ev.failed = false)
    (h₂ : ev.stops = false) : Tallied b q (Run.emitIf c ev >>= f) := by
  unfold Run.emitIf
  split
  · exact Tallied.emit hf h₁ h₂
  · exact hf

end Tally

/-- A repository on `main`, whose recent branches are `main` and two branches at one commit,
whose summary cannot be read; every fetch succeeds. Times are seconds. -/
def sampleEnv : FetchEnv where
  validateRemote r := r = "origin"
  resolveRefs l := some (l.map fun n => ⟨n, n ++ "1"⟩)
  currentRef := some ⟨"main", "a1"⟩
  defaultRemote := some "origin"
  now := 30 * 86400
  addDays t d := t + d * 86400
  recentBranches _ _ _ := some [⟨"main", "a1"⟩, ⟨"dev", "b2"⟩, ⟨"topic", "b2"⟩]
  commitDate s := if s = "b2" then .error "object not found" else .ok (29 * 86400)
  scans _ := true
  errors _ _ := []
  globalPaths := false
  rangeOrder := List.reverse

/-- Recent branches within 7 days, and commits within 3 days of each. -/
def sampleConf : FetchPruneConfig := ⟨7, false, 3, false, false⟩

variable (e : FetchEnv)

/-! ### Success and failure -/

theorem currentRemote_tallied (remote : String) :
    Tallied true (fun _ => true) (currentRemote e remote) := by
  unfold currentRemote
  split
  · split
    · exact Tallied.halt rfl
    · exact Tallied.pure rfl
  · exact Tallied.pure rfl

theorem fetchPointers_tallied (remote : String) (t : Target) :
    Tallied true Prod.snd (fetchPointers e remote t) :=
  (currentRemote_tallied e remote).bind fun r _ => by simp [Tallied, Event.failed, Event.stops]

theorem fetchRef_tallied (remote : String) (sha : Sha) :
    Tallied true Prod.snd (fetchRef e remote sha) := by
  unfold fetchRef
  split
  · exact fetchPointers_tallied e remote _
  · exact Tallied.halt rfl

theorem fetchPreviousVersions_tallied (remote : String) (sha : Sha) (since : Int) :
    Tallied true Prod.snd (fetchPreviousVersions e remote sha since) := by
  unfold fetchPreviousVersions
  split
  · exact fetchPointers_tallied e remote _
  · exact Tallied.halt rfl

theorem fetchAll_tallied (remote : String) : Tallied true Prod.snd (fetchAll e remote) := by
  refine Tallied.emit ?_ rfl rfl
  split
  · exact Tallied.emit (fetchPointers_tallied e remote _) rfl rfl
  · exact Tallied.halt rfl

theorem fetchRefs_tallied : ∀ (refs : List Ref) (remote : String) (success : Bool),
    Tallied success Prod.snd (fetchRefs e refs remote success)
  | [], _, _ => Tallied.pure rfl
  | ref :: refs, remote, success =>
    Tallied.emit ((fetchRef_tallied e remote ref.sha).weaken.bind fun ⟨r, s⟩ _ =>
      fetchRefs_tallied refs r (success && s)) rfl rfl

theorem fetchRecentRefs_tallied (b : Bool) :
    ∀ (refs : List Ref) (remote : String) (shas : List (Sha × String)),
      Tallied b (fun _ => b) (fetchRecentRefs e refs remote shas)
  | [], _, _ => Tallied.pure rfl
  | ref :: refs, remote, shas => by
    unfold fetchRecentRefs
    split
    · exact Tallied.emitIf (fetchRecentRefs_tallied b refs remote shas) rfl rfl
    · exact Tallied.emit (((fetchRef_tallied e remote ref.sha).dropResult b).bind fun ⟨r, _⟩ _ =>
        fetchRecentRefs_tallied b refs r _) rfl rfl

theorem fetchRecentCommits_tallied (days : Int) :
    ∀ (m : List (Sha × String)) (remote : String) (ok : Bool),
      Tallied ok id (fetchRecentCommits e days m remote ok)
  | [], _, _ => Tallied.pure rfl
  | (commit, refName) :: rest, remote, ok => by
    unfold fetchRecentCommits
    split
    · exact Tallied.emit (fetchRecentCommits_tallied days rest remote ok) rfl rfl
    · exact Tallied.emit ((fetchPreviousVersions_tallied e remote commit _).weaken.bind
        fun ⟨r, s⟩ _ => fetchRecentCommits_tallied days rest r (ok && s)) rfl rfl

theorem fetchRecentBranches_tallied (conf : FetchPruneConfig) (remote : String)
    (shas : List (Sha × String)) :
    Tallied true (fun _ => true) (fetchRecentBranches e conf remote shas) := by
  unfold fetchRecentBranches
  split
  · refine Tallied.emit ?_ rfl rfl
    split
    · exact Tallied.halt rfl
    · exact fetchRecentRefs_tallied e true _ _ _
  · exact Tallied.pure rfl

theorem fetchRecent_tallied (conf : FetchPruneConfig) (remote : String) (refs : List Ref) :
    Tallied true id (fetchRecent e conf remote refs) := by
  unfold fetchRecent
  split
  · exact Tallied.pure rfl
  · refine (fetchRecentBranches_tallied e conf remote _).bind fun ⟨r, m⟩ _ => ?_
    dsimp only
    split
    · exact fetchRecentCommits_tallied e _ _ r true
    · exact Tallied.pure rfl

theorem remoteArg_tallied (args : List String) :
    Tallied true (fun _ => true) (remoteArg e args) := by
  unfold remoteArg
  split
  · exact Tallied.pure rfl
  · split
    · exact Tallied.pure rfl
    · exact Tallied.halt rfl

theorem refsArg_tallied (all : Bool) (args : List String) :
    Tallied true (fun _ => true) (refsArg e all args) := by
  unfold refsArg
  split
  · split
    · exact Tallied.halt rfl
    · exact Tallied.pure rfl
  · split
    · exact Tallied.pure rfl
    · split
      · exact Tallied.halt rfl
      · exact Tallied.pure rfl

theorem fetchAllChecked_tallied (flags : FetchFlags) (args : List String) (remote : String) :
    Tallied true Prod.snd (fetchAllChecked e flags args remote) := by
  unfold fetchAllChecked
  split
  · exact Tallied.halt rfl
  · split
    · exact Tallied.halt rfl
    · exact Tallied.emitIf (fetchAll_tallied e remote) rfl rfl

theorem fetchRefsAndRecent_tallied (flags : FetchFlags) (conf : FetchPruneConfig)
    (refs : List Ref) (remote : String) :
    Tallied true Prod.snd (fetchRefsAndRecent e flags conf refs remote) :=
  (fetchRefs_tallied e refs remote true).bind fun ⟨r, success⟩ _ => by
    dsimp only
    split
    · exact (fetchRecent_tallied e conf r refs).weaken.bind fun _ _ => Tallied.pure rfl
    · exact Tallied.pure rfl

theorem fetchCommand_tallied (flags : FetchFlags) (conf : FetchPruneConfig) (args : List String) :
    Tallied true (fun _ => true) (fetchCommand e flags conf args) := by
  refine (remoteArg_tallied e args).bind fun remote _ => (refsArg_tallied e _ args).bind
    fun refs _ => Tallied.bind (p := Prod.snd) ?_ fun ⟨_, success⟩ _ => ?_
  · split
    · exact fetchAllChecked_tallied e flags args remote
    · exact fetchRefsAndRecent_tallied e flags conf refs remote
  · refine Tallied.emitIf ?_ rfl rfl
    cases success
    · exact Tallied.halt rfl
    · exact Tallied.pure rfl

/-- `git lfs fetch --recent` in `sampleEnv`, where the fetch of `dev`'s commit fails: that
failure, and the summary of the commit that cannot be read, are reported, and the command
returns normally. -/
example :
    let e := { sampleEnv with errors := fun _ t => if t = .ref "b2" then ["boom"] else [] }
    (fetchCommand e ⟨true, false, false, false, false⟩ sampleConf []).result = some () ∧
      .fetch "origin" (.ref "b2") false false ∈
        (fetchCommand e ⟨true, false, false, false, false⟩ sampleConf []).events ∧
      .error "Couldn't scan commits at %v: %v" ["dev", "object not found"] ∈
        (fetchCommand e ⟨true, false, false, false, false⟩ sampleConf []).events := by
  decide

/-! ### No commit is fetched twice -/

@[simp] theorem refFetched_fullErrors (errs : List String) :
    (errs.map Event.fullError).filterMap Event.refFetched = [] := by
  induction errs <;> simp_all [Event.refFetched]

@[simp] theorem previousFetched_fullErrors (errs : List String) :
    (errs.map Event.fullError).filterMap Event.previousFetched = [] := by
  induction errs <;> simp_all [Event.previousFetched]

theorem lookup_isSome {m : List (Sha × String)} {k : Sha} :
    (m.lookup k).isSome ↔ k ∈ m.map Prod.fst := by
  simp only [List.lookup_isSome_iff, beq_iff_eq, List.mem_map]
  exact ⟨fun ⟨p, hp, h⟩ => ⟨p, hp, h.symm⟩, fun ⟨p, hp, h⟩ => ⟨p, hp, h.symm⟩⟩

theorem put_keys (m : List (Sha × String)) (k : Sha) (v : String) :
    (put m k v).map Prod.fst = if k ∈ m.map Prod.fst then m.map Prod.fst else m.map Prod.fst ++ [k] := by
  unfold put
  by_cases h : k ∈ m.map Prod.fst
  · rw [if_pos (lookup_isSome.mpr h), if_pos h, List.map_map]
    exact List.map_congr_left fun p _ => by by_cases hp : p.1 = k <;> simp [hp]
  · rw [if_neg (mt lookup_isSome.mp h), if_neg h, List.map_append]; rfl

theorem keys_foldl_put : ∀ (refs : List Ref) (m : List (Sha × String)), (m.map Prod.fst).Nodup →
    let m' := refs.foldl (fun m ref => put m ref.sha ref.name) m
    (m'.map Prod.fst).Nodup ∧ (∀ k ∈ m.map Prod.fst, k ∈ m'.map Prod.fst) ∧
      ∀ ref ∈ refs, ref.sha ∈ m'.map Prod.fst
  | [], _, hn => ⟨hn, fun _ h => h, fun _ h => absurd h (List.not_mem_nil _)⟩
  | ref :: refs, m, hn => by
    have hp : ((put m ref.sha ref.name).map Prod.fst).Nodup ∧
        ∀ k ∈ m.map Prod.fst ++ [ref.sha], k ∈ (put m ref.sha ref.name).map Prod.fst := by
      rw [put_keys]
      split_ifs with h
      · refine ⟨hn, fun k hk => ?_⟩
        rcases List.mem_append.mp hk with hk | hk
        · exact hk
        · exact List.mem_singleton.mp hk ▸ h
      · exact ⟨hn.append (List.nodup_singleton _) (List.disjoint_singleton.mpr h), fun _ hk => hk⟩
    obtain ⟨h1, h2, h3⟩ := keys_foldl_put refs _ hp.1
    refine ⟨h1, fun k hk => h2 k (hp.2 k (by simp [hk])), fun r hr => ?_⟩
    rcases List.mem_cons.mp hr with rfl | hr
    · exact h2 _ (hp.2 _ (by simp))
    · exact h3 r hr

theorem currentRemote_cases (remote : String) :
    currentRemote e remote = halt (.exit "No default remote" []) ∨
      ∃ r, currentRemote e remote = pure r := by
  unfold currentRemote
  split
  · split
    · exact .inl rfl
    · exact .inr ⟨_, rfl⟩
  · exact .inr ⟨_, rfl⟩

theorem fetchPointers_cases (remote : String) (t : Target) :
    fetchPointers e remote t = halt (.exit "No default remote" []) ∨
      ∃ r, fetchPointers e remote t = ⟨.fetch r t (e.errors r t).isEmpty true ::
        (e.errors r t).map .fullError, some (r, (e.errors r t).isEmpty)⟩ := by
  unfold fetchPointers
  rcases currentRemote_cases e remote with h | ⟨r, h⟩ <;> rw [h]
  · exact .inl rfl
  · exact .inr ⟨r, rfl⟩

theorem fetchRef_refFetched (remote : String) (sha : Sha) :
    (fetchRef e remote sha).events.filterMap Event.refFetched =
      if (fetchRef e remote sha).result.isSome then [sha] else [] := by
  unfold fetchRef
  split
  · rcases fetchPointers_cases e remote (.ref sha) with h | ⟨r, h⟩ <;> rw [h] <;> simp [Event.refFetched]
  · simp [Event.refFetched]

theorem fetchRef_previousFetched (remote : String) (sha : Sha) :
    (fetchRef e remote sha).events.filterMap Event.previousFetched = [] := by
  unfold fetchRef
  split
  · rcases fetchPointers_cases e remote (.ref sha) with h | ⟨r, h⟩ <;> rw [h] <;>
      simp [Event.previousFetched]
  · simp [Event.previousFetched]

theorem fetchRecentRefs_fetched :
    ∀ (refs : List Ref) (remote : String) (shas : List (Sha × String)),
      (shas.map Prod.fst).Nodup →
      let r := fetchRecentRefs e refs remote shas
      (shas.map Prod.fst ++ r.events.filterMap Event.refFetched).Nodup ∧
        r.events.filterMap Event.previousFetched = [] ∧
        ∀ x ∈ r.result, x.2.map Prod.fst = shas.map Prod.fst ++ r.events.filterMap Event.refFetched
  | [], _, _, hn => by simpa [fetchRecentRefs] using hn
  | ref :: refs, remote, shas, hn => by
    unfold fetchRecentRefs
    split
    · have h := fetchRecentRefs_fetched refs remote shas hn
      simp only [emitIf_bind, List.filterMap_append]
      split <;> simpa [Event.refFetched, Event.previousFetched] using h
    · rename_i hk
      have hk' : ref.sha ∉ shas.map Prod.fst := fun h => by
        have := lookup_isSome.mpr h
        rw [hk] at this
        cases this
      have hn' : ((shas ++ [(ref.sha, ref.name)]).map Prod.fst).Nodup := by
        simpa using hn.append (List.nodup_singleton _) (List.disjoint_singleton.mpr hk')
      simp only [emit_bind, bind_events, bind_result, List.filterMap_cons,
        Event.refFetched, Event.previousFetched, List.filterMap_append, dropResult_events,
        dropResult_result, List.filterMap_map, Event.refFetched_comp_drop,
        Event.previousFetched_comp_drop, fetchRef_refFetched, fetchRef_previousFetched]
      cases h : (fetchRef e remote ref.sha).result with
      | none => simpa [h] using hn
      | some x =>
        obtain ⟨r', k⟩ := x
        obtain ⟨h1, h2, h3⟩ := fetchRecentRefs_fetched refs r' _ hn'
        simp only [h, Option.isSome_some, if_true, List.nil_append, h2, true_and, Option.bind_some,
          List.singleton_append]
        simp only [List.map_append, List.map_singleton, List.append_assoc,
          List.singleton_append] at h1 h3
        exact ⟨h1, h3⟩

theorem fetchPreviousVersions_previousFetched (remote : String) (sha : Sha) (since : Int) :
    (fetchPreviousVersions e remote sha since).events.filterMap Event.previousFetched =
      if (fetchPreviousVersions e remote sha since).result.isSome then [sha] else [] := by
  unfold fetchPreviousVersions
  split
  · rcases fetchPointers_cases e remote (.previousVersions sha since) with h | ⟨r, h⟩ <;> rw [h] <;>
      simp [Event.previousFetched]
  · simp [Event.previousFetched]

theorem fetchPreviousVersions_refFetched (remote : String) (sha : Sha) (since : Int) :
    (fetchPreviousVersions e remote sha since).events.filterMap Event.refFetched = [] := by
  unfold fetchPreviousVersions
  split
  · rcases fetchPointers_cases e remote (.previousVersions sha since) with h | ⟨r, h⟩ <;> rw [h] <;>
      simp [Event.refFetched]
  · simp [Event.refFetched]

theorem fetchRecentCommits_fetched (days : Int) :
    ∀ (m : List (Sha × String)) (remote : String) (ok : Bool),
      let r := fetchRecentCommits e days m remote ok
      (r.events.filterMap Event.previousFetched).Sublist (m.map Prod.fst) ∧
        r.events.filterMap Event.refFetched = []
  | [], _, _ => by simp [fetchRecentCommits]
  | (commit, refName) :: rest, remote, ok => by
    unfold fetchRecentCommits
    split
    · obtain ⟨h1, h2⟩ := fetchRecentCommits_fetched days rest remote ok
      simp only [emit_bind, List.filterMap_cons, Event.refFetched, Event.previousFetched, h2]
      exact ⟨h1.cons _, trivial⟩
    · simp only [emit_bind, bind_events, List.filterMap_cons, Event.refFetched,
        Event.previousFetched, List.filterMap_append, fetchPreviousVersions_previousFetched,
        fetchPreviousVersions_refFetched, List.nil_append, List.map_cons]
      cases h : (fetchPreviousVersions e remote commit _).result with
      | none => simp [h]
      | some x =>
        obtain ⟨h1, h2⟩ := fetchRecentCommits_fetched days rest x.1 (ok && x.2)
        simp only [h, Option.isSome_some, if_true, h2, and_true, List.singleton_append]
        exact h1.cons₂ _

theorem fetchRecentBranches_fetched (conf : FetchPruneConfig) (remote : String)
    (shas : List (Sha × String)) (hn : (shas.map Prod.fst).Nodup) :
    let r := fetchRecentBranches e conf remote shas
    (shas.map Prod.fst ++ r.events.filterMap Event.refFetched).Nodup ∧
      r.events.filterMap Event.previousFetched = [] ∧
      ∀ x ∈ r.result, x.2.map Prod.fst = shas.map Prod.fst ++ r.events.filterMap Event.refFetched := by
  unfold fetchRecentBranches
  split
  · simp only [emit_bind, List.filterMap_cons, Event.refFetched, Event.previousFetched]
    split
    · simpa [Event.refFetched, Event.previousFetched] using hn
    · exact fetchRecentRefs_fetched e _ remote shas hn
  · simpa using hn

/-- `fetchRecent` fetches the tree at a commit at most once, and never at a commit one of the
refs already fetched points to; and, whatever order `range` visits `uniqueRefShas` in, it
fetches the previous versions of a commit at most once. -/
theorem fetchRecent_once (conf : FetchPruneConfig) (remote : String) (refs : List Ref)
    (horder : ∀ m, (e.rangeOrder m).Perm m) :
    let r := fetchRecent e conf remote refs
    (r.events.filterMap Event.refFetched).Nodup ∧
      (∀ ref ∈ refs, ref.sha ∉ r.events.filterMap Event.refFetched) ∧
      (r.events.filterMap Event.previousFetched).Nodup := by
  unfold fetchRecent
  split
  · simp
  · obtain ⟨k1, -, k3⟩ := keys_foldl_put refs [] List.nodup_nil
    obtain ⟨h1, h2, h3⟩ := fetchRecentBranches_fetched e conf remote _ k1
    have hd := List.nodup_append.mp h1
    have hfresh : ∀ ref ∈ refs, ref.sha ∉ (fetchRecentBranches e conf remote
        (refs.foldl (fun m ref => put m ref.sha ref.name) [])).events.filterMap Event.refFetched :=
      fun ref hr hf => hd.2.2 (k3 ref hr) hf
    simp only [bind_events, List.filterMap_append, h2, List.nil_append]
    cases h : (fetchRecentBranches e conf remote _).result with
    | none => simp only [List.filterMap_nil, List.append_nil]; exact ⟨hd.2.1, hfresh, List.nodup_nil⟩
    | some x =>
      obtain ⟨r', m'⟩ := x
      have hkeys := h3 _ h
      dsimp only
      split
      · obtain ⟨c1, c2⟩ := fetchRecentCommits_fetched e _ (e.rangeOrder m') r' true
        rw [c2, List.append_nil]
        refine ⟨hd.2.1, hfresh, c1.nodup ?_⟩
        rw [((horder m').map Prod.fst).nodup_iff, hkeys]
        exact h1
      · simp only [pure_events, List.filterMap_nil, List.append_nil]
        exact ⟨hd.2.1, hfresh, List.nodup_nil⟩

theorem fetchRecent_once_sample :
    let r := fetchRecent sampleEnv sampleConf "origin" [⟨"main", "a1"⟩]
    (r.events.filterMap Event.refFetched).Nodup ∧
      (∀ ref ∈ [(⟨"main", "a1"⟩ : Ref)], ref.sha ∉ r.events.filterMap Event.refFetched) ∧
      (r.events.filterMap Event.previousFetched).Nodup :=
  fetchRecent_once sampleEnv sampleConf "origin" _ List.reverse_perm

end GitLfs.Commands
