import GitLfs.Commands.Fetch

/-! # `pull`: the scanner callback, the watcher goroutine and `pointerMap`

The scanner callback checks out a pointer at once when its object is stored; otherwise it
records the pointer in `pointerMap` under its oid and adds it to the download queue, or, if
the oid is already recorded, only records it behind the first. The watcher goroutine checks
out every pointer recorded for each oid the queue reports done. If the pointers of one oid
all carry one size, every pointer is checked out exactly once if its object is stored when
`pull` returns, and never otherwise. A pointer recorded behind an oid whose download fails
is never checked out, even if its own object was stored all along under another size.
-/

namespace GitLfs.Commands

open Tq (Oid)

/-- `pointerMap.pointers`: the pointers recorded for each oid, one entry per oid. -/
abbrev PointerMap := List (Oid × List WrappedPointer)

namespace PointerMap

def keys (m : PointerMap) : List Oid := m.map (·.1)

/-- Every pointer the map holds. -/
def mapped (m : PointerMap) : List WrappedPointer := m.flatMap (·.2)

/-- Appends `p` to the slice of its oid. -/
def append (m : PointerMap) (p : WrappedPointer) : PointerMap :=
  m.map fun e => (e.1, if e.1 = p.oid then e.2 ++ [p] else e.2)

/-- `Seen`: records `p` if its oid is recorded, and says whether it was. -/
def seen (m : PointerMap) (p : WrappedPointer) : Bool × PointerMap :=
  if p.oid ∈ m.keys then (true, m.append p) else (false, m)

/-- `Add`. -/
def add (m : PointerMap) (p : WrappedPointer) : PointerMap :=
  if p.oid ∈ m.keys then m.append p else m ++ [(p.oid, [p])]

/-- `All`: the pointers recorded for `oid`, and the map without its entry. -/
def all (m : PointerMap) (oid : Oid) : List WrappedPointer × PointerMap :=
  ((m.filter (·.1 = oid)).flatMap (·.2), m.filter (·.1 ≠ oid))

@[simp] theorem keys_append (m : PointerMap) (p : WrappedPointer) : (m.append p).keys = m.keys := by
  simp only [keys, append, List.map_map]
  rfl

theorem count_mapped_append (m : PointerMap) (p q : WrappedPointer) :
    (m.append p).mapped.count q = m.mapped.count q + if p = q then m.keys.count p.oid else 0 := by
  induction m with
  | nil => simp [append, mapped, keys]
  | cons e m ih =>
    simp only [append, mapped, keys, List.map_cons, List.flatMap_cons, List.count_append,
      List.count_cons, beq_iff_eq] at ih ⊢
    rw [ih]
    rcases eq_or_ne p q with rfl | hpq <;> by_cases he : e.1 = p.oid <;>
      simp [he, List.count_singleton', *] <;> omega

theorem count_mapped_all (m : PointerMap) (x : Oid) (q : WrappedPointer) :
    (m.all x).1.count q + (m.all x).2.mapped.count q = m.mapped.count q := by
  induction m with
  | nil => rfl
  | cons e m ih =>
    simp only [all, mapped, List.filter_cons, ne_eq, decide_not] at ih ⊢
    by_cases he : e.1 = x <;> simp [he] <;> omega

theorem keys_all (m : PointerMap) (x : Oid) : (m.all x).2.keys = m.keys.filter (· ≠ x) := by
  simp only [all, keys, List.filter_map]
  rfl

theorem add_of_not_mem {m : PointerMap} {p : WrappedPointer} (hp : p.oid ∉ m.keys) :
    m.add p = m ++ [(p.oid, [p])] := if_neg hp

/-- The map of `pointerMap`: one entry per oid, each holding pointers of its oid. -/
structure WellFormed (m : PointerMap) : Prop where
  keys : m.keys.Nodup
  entries : ∀ e ∈ m, ∀ p ∈ e.2, p.oid = e.1

variable {m : PointerMap}

theorem WellFormed.append (hm : m.WellFormed) (p : WrappedPointer) : (m.append p).WellFormed where
  keys := by simpa using hm.keys
  entries := by
    simp only [PointerMap.append, List.mem_map]
    rintro _ ⟨e, he, rfl⟩ q hq
    split at hq
    · rcases List.mem_append.mp hq with hq | hq
      · exact hm.entries e he q hq
      · simp_all
    · exact hm.entries e he q hq

theorem WellFormed.add (hm : m.WellFormed) (p : WrappedPointer) : (m.add p).WellFormed := by
  by_cases hp : p.oid ∈ m.keys
  · simpa only [PointerMap.add, if_pos hp] using hm.append p
  · rw [add_of_not_mem hp]
    have hk := hm.keys.append (List.nodup_singleton _) (List.disjoint_singleton.mpr hp)
    refine ⟨by simpa [PointerMap.keys] using hk, ?_⟩
    simp only [List.mem_append, List.mem_singleton]
    rintro e (he | rfl)
    · exact hm.entries e he
    · simp

theorem WellFormed.all (hm : m.WellFormed) (x : Oid) : (m.all x).2.WellFormed where
  keys := by simpa only [keys_all] using hm.keys.filter _
  entries e he := hm.entries e (List.mem_of_mem_filter he)

theorem WellFormed.oid_mem_keys (hm : m.WellFormed) {p : WrappedPointer} (hp : p ∈ m.mapped) :
    p.oid ∈ m.keys := by
  obtain ⟨e, he, hpe⟩ := List.mem_flatMap.mp hp
  exact hm.entries e he p hpe ▸ List.mem_map_of_mem _ he

theorem WellFormed.oid_of_mem_all (hm : m.WellFormed) {x : Oid} {p : WrappedPointer}
    (hp : p ∈ (m.all x).1) : p.oid = x := by
  obtain ⟨e, he, hpe⟩ := List.mem_flatMap.mp hp
  obtain ⟨he, hx⟩ := List.mem_filter.mp he
  exact (hm.entries e he p hpe).trans (of_decide_eq_true hx)

theorem WellFormed.count_mapped_append (hm : m.WellFormed) {p : WrappedPointer}
    (hp : p.oid ∈ m.keys) (q : WrappedPointer) :
    (m.append p).mapped.count q = m.mapped.count q + if p = q then 1 else 0 := by
  rw [PointerMap.count_mapped_append, List.count_eq_one_of_mem hm.keys hp]

theorem count_mapped_add {p : WrappedPointer} (hp : p.oid ∉ m.keys) (q : WrappedPointer) :
    (m.add p).mapped.count q = m.mapped.count q + if p = q then 1 else 0 := by
  simp [add_of_not_mem hp, mapped, List.count_singleton']

end PointerMap

/-- The scanner callback, between its statements: `Seen` has returned false and
`LinkOrCopyFromReference` and `ObjectExistsOfSize` are next, or they found nothing and
`pointers.Add` and `q.Add` are next. -/
inductive Callback
  | idle
  | link (p : WrappedPointer)
  | add (p : WrappedPointer)
  deriving DecidableEq, Repr

/-- The pointer the callback is working on, counted. -/
def Callback.holds : Callback → WrappedPointer → Nat
  | .link p, q => if p = q then 1 else 0
  | .add p, q => if p = q then 1 else 0
  | .idle, _ => 0

/-- `pull` itself: `ScanTree` with its callbacks, `q.Wait()`, `wg.Wait()`. -/
inductive PullPc
  | scanning
  | waitQueue
  | join
  | done
  deriving DecidableEq, Repr

/-- `pull` and its goroutines. `store` holds the local objects with their sizes; the
download queue is `queued` (each oid with the size of the pointer it was added for),
`stored` and `failed`; `dlwatch` is its watch channel. The last five fields record the run:
the pointers delivered to the callback, recorded in and returned by `pointerMap`, the oids
reported on `dlwatch`, and those `All` was called for. -/
structure Pull where
  scan : List WrappedPointer
  callback : Callback
  pointers : PointerMap
  store : List (Oid × Int)
  queued : List (Oid × Int)
  stored : List Oid
  failed : List Oid
  dlwatch : List Oid
  watchClosed : Bool
  watcher : Option Oid
  watcherDone : Bool
  main : PullPc
  runs : List WrappedPointer
  delivered : List WrappedPointer
  recorded : List WrappedPointer
  returned : List WrappedPointer
  reported : List Oid
  alled : List Oid
  deriving DecidableEq, Repr

/-- `pull` with the pointers the scanner will deliver and the objects stored locally. -/
def Pull.init (ps : List WrappedPointer) (st : List (Oid × Int)) : Pull where
  scan := ps
  callback := .idle
  pointers := []
  store := st
  queued := []
  stored := []
  failed := []
  dlwatch := []
  watchClosed := false
  watcher := none
  watcherDone := false
  main := .scanning
  runs := []
  delivered := []
  recorded := []
  returned := []
  reported := []
  alled := []

inductive PullAct
  | deliver
  | link (linked : Bool)
  | add
  | download (oid : Oid)
  | report (oid : Oid)
  | fail (oid : Oid)
  | receive
  | all
  | finishScan
  | waitQueue
  | join
  deriving DecidableEq, Repr

namespace Pull

variable (s : Pull)

/-- The scanner calls the callback with its next pointer, which runs `pointers.Seen(p)`. -/
def deliver : Option Pull :=
  match s.scan with
  | p :: rest =>
    if s.main = .scanning ∧ s.callback = .idle then
      let s' := { s with scan := rest, delivered := s.delivered ++ [p] }
      if (s.pointers.seen p).1 then
        some { s' with pointers := (s.pointers.seen p).2, recorded := s.recorded ++ [p] }
      else some { s' with callback := .link p }
    else none
  | [] => none

/-- `LinkOrCopyFromReference` (which may store the object), then `ObjectExistsOfSize`:
`singleCheckout.Run(p)` if it is stored with the pointer's size. -/
def link (linked : Bool) : Option Pull :=
  match s.callback with
  | .link p =>
    let store := if linked then s.store ++ [(p.oid, p.size)] else s.store
    if (p.oid, p.size) ∈ store then some { s with store, callback := .idle, runs := s.runs ++ [p] }
    else some { s with store, callback := .add p }
  | _ => none

/-- `pointers.Add(p)` and `q.Add`, which ignores an oid it already has. -/
def add : Option Pull :=
  match s.callback with
  | .add p =>
    some { s with pointers := s.pointers.add p, recorded := s.recorded ++ [p],
                  queued := if p.oid ∈ s.queued.map (·.1) then s.queued
                            else s.queued ++ [(p.oid, p.size)],
                  callback := .idle }
  | _ => none

/-- The download queue stores a queued object. -/
def download (oid : Oid) : Option Pull :=
  match s.queued.find? (·.1 = oid) with
  | some (_, size) =>
    if oid ∉ s.stored ∧ oid ∉ s.failed then
      some { s with stored := s.stored ++ [oid], store := s.store ++ [(oid, size)] }
    else none
  | none => none

/-- The download queue reports a stored object on its watch channel. -/
def report (oid : Oid) : Option Pull :=
  if oid ∈ s.stored ∧ oid ∉ s.reported ∧ s.watchClosed = false then
    some { s with dlwatch := s.dlwatch ++ [oid], reported := s.reported ++ [oid] }
  else none

/-- The download of a queued object fails. -/
def fail (oid : Oid) : Option Pull :=
  if oid ∈ s.queued.map (·.1) ∧ oid ∉ s.stored ∧ oid ∉ s.failed then
    some { s with failed := s.failed ++ [oid] }
  else none

/-- `for oid := range dlwatch`, and `wg.Done()` once it is closed. -/
def receive : Option Pull :=
  match s.watcher, s.dlwatch with
  | none, x :: rest => some { s with watcher := some x, dlwatch := rest }
  | none, [] =>
    if s.watchClosed ∧ s.watcherDone = false then some { s with watcherDone := true } else none
  | some _, _ => none

/-- `pointers.All(oid)` and `singleCheckout.Run` for each pointer it returns. -/
def all : Option Pull :=
  match s.watcher with
  | some x =>
    some { s with pointers := (s.pointers.all x).2, runs := s.runs ++ (s.pointers.all x).1,
                  returned := s.returned ++ (s.pointers.all x).1, alled := s.alled ++ [x],
                  watcher := none }
  | none => none

/-- `ScanTree` returns once the scanner has delivered every pointer. -/
def finishScan : Option Pull :=
  if s.main = .scanning ∧ s.scan = [] ∧ s.callback = .idle then some { s with main := .waitQueue }
  else none

/-- `q.Wait()` returns once every download has finished, and closes `dlwatch`. -/
def waitQueue : Option Pull :=
  if s.main = .waitQueue ∧ ∀ e ∈ s.queued, e.1 ∈ s.reported ∨ e.1 ∈ s.failed then
    some { s with watchClosed := true, main := .join }
  else none

/-- `wg.Wait()`. -/
def join : Option Pull :=
  if s.main = .join ∧ s.watcherDone then some { s with main := .done } else none

end Pull

def pullStep (s : Pull) : PullAct → Option Pull
  | .deliver => s.deliver
  | .link b => s.link b
  | .add => s.add
  | .download x => s.download x
  | .report x => s.report x
  | .fail x => s.fail x
  | .receive => s.receive
  | .all => s.all
  | .finishScan => s.finishScan
  | .waitQueue => s.waitQueue
  | .join => s.join

inductive PullReachable (ps : List WrappedPointer) (st : List (Oid × Int)) : Pull → Prop
  | init : PullReachable ps st (Pull.init ps st)
  | step {s s' : Pull} {a : PullAct} : PullReachable ps st s → pullStep s a = some s' →
      PullReachable ps st s'

namespace Pull

variable {s s' : Pull} {b : Bool} {x : Oid}

theorem deliver_spec (h : s.deliver = some s') : s.main = .scanning ∧ s.callback = .idle ∧
    ∃ p rest, s.scan = p :: rest ∧
      ((p.oid ∈ s.pointers.keys ∧
          s' = { s with scan := rest, delivered := s.delivered ++ [p],
                        pointers := s.pointers.append p, recorded := s.recorded ++ [p] }) ∨
       (p.oid ∉ s.pointers.keys ∧
          s' = { s with scan := rest, delivered := s.delivered ++ [p], callback := .link p })) := by
  unfold deliver at h
  split at h
  · rename_i p rest hs
    by_cases hk : p.oid ∈ s.pointers.keys
    · simp only [PointerMap.seen, hk, ↓reduceIte] at h
      split_ifs at h with hg
      exact ⟨hg.1, hg.2, p, rest, hs, .inl ⟨hk, (Option.some.inj h).symm⟩⟩
    · simp only [PointerMap.seen, hk, ↓reduceIte, Bool.false_eq_true] at h
      split_ifs at h with hg
      exact ⟨hg.1, hg.2, p, rest, hs, .inr ⟨hk, (Option.some.inj h).symm⟩⟩
  · cases h

theorem link_spec (h : s.link b = some s') : ∃ p, s.callback = .link p ∧
    ∃ new : List (Oid × Int), (∀ e ∈ new, e = (p.oid, p.size)) ∧
      (((p.oid, p.size) ∈ s.store ++ new ∧
          s' = { s with store := s.store ++ new, callback := .idle, runs := s.runs ++ [p] }) ∨
       ((p.oid, p.size) ∉ s.store ++ new ∧
          s' = { s with store := s.store ++ new, callback := .add p })) := by
  unfold link at h
  split at h
  · rename_i p hc
    obtain ⟨new, hnew, hst⟩ : ∃ new : List (Oid × Int), (∀ e ∈ new, e = (p.oid, p.size)) ∧
        (if b then s.store ++ [(p.oid, p.size)] else s.store) = s.store ++ new := by
      cases b
      · exact ⟨[], by simp, by simp⟩
      · exact ⟨_, by simp, rfl⟩
    refine ⟨p, hc, new, hnew, ?_⟩
    simp only [hst] at h
    split_ifs at h with hin
    · exact .inl ⟨hin, (Option.some.inj h).symm⟩
    · exact .inr ⟨hin, (Option.some.inj h).symm⟩
  · cases h

theorem add_spec (h : s.add = some s') : ∃ p, s.callback = .add p ∧
    s' = { s with pointers := s.pointers.add p, recorded := s.recorded ++ [p],
                  queued := if p.oid ∈ s.queued.map (·.1) then s.queued
                            else s.queued ++ [(p.oid, p.size)],
                  callback := .idle } := by
  unfold add at h
  split at h
  · exact ⟨_, ‹_›, (Option.some.inj h).symm⟩
  · cases h

theorem download_spec (h : s.download x = some s') : ∃ size, (x, size) ∈ s.queued ∧
    x ∉ s.stored ∧ x ∉ s.failed ∧
    s' = { s with stored := s.stored ++ [x], store := s.store ++ [(x, size)] } := by
  unfold download at h
  split at h
  · rename_i y size hf
    split_ifs at h with hg
    have hy : y = x := of_decide_eq_true (List.find?_some hf :)
    subst hy
    exact ⟨size, List.mem_of_find?_eq_some hf, hg.1, hg.2, (Option.some.inj h).symm⟩
  · cases h

theorem report_spec (h : s.report x = some s') : x ∈ s.stored ∧ s.watchClosed = false ∧
    s' = { s with dlwatch := s.dlwatch ++ [x], reported := s.reported ++ [x] } := by
  unfold report at h
  split_ifs at h with hg
  exact ⟨hg.1, hg.2.2, (Option.some.inj h).symm⟩

theorem fail_spec (h : s.fail x = some s') : x ∉ s.stored ∧
    s' = { s with failed := s.failed ++ [x] } := by
  unfold fail at h
  split_ifs at h with hg
  exact ⟨hg.2.1, (Option.some.inj h).symm⟩

theorem receive_spec (h : s.receive = some s') : s.watcher = none ∧
    ((∃ y rest, s.dlwatch = y :: rest ∧ s' = { s with watcher := some y, dlwatch := rest }) ∨
     (s.dlwatch = [] ∧ s.watchClosed = true ∧ s' = { s with watcherDone := true })) := by
  unfold receive at h
  split at h
  · exact ⟨‹_›, .inl ⟨_, _, ‹_›, (Option.some.inj h).symm⟩⟩
  · split_ifs at h with hg
    exact ⟨‹_›, .inr ⟨‹_›, hg.1, (Option.some.inj h).symm⟩⟩
  · cases h

theorem all_spec (h : s.all = some s') : ∃ y, s.watcher = some y ∧
    s' = { s with pointers := (s.pointers.all y).2, runs := s.runs ++ (s.pointers.all y).1,
                  returned := s.returned ++ (s.pointers.all y).1, alled := s.alled ++ [y],
                  watcher := none } := by
  unfold all at h
  split at h
  · exact ⟨_, ‹_›, (Option.some.inj h).symm⟩
  · cases h

theorem finishScan_spec (h : s.finishScan = some s') : s.main = .scanning ∧ s.scan = [] ∧
    s.callback = .idle ∧ s' = { s with main := .waitQueue } := by
  unfold finishScan at h
  split_ifs at h with hg
  exact ⟨hg.1, hg.2.1, hg.2.2, (Option.some.inj h).symm⟩

theorem waitQueue_spec (h : s.waitQueue = some s') : s.main = .waitQueue ∧
    (∀ e ∈ s.queued, e.1 ∈ s.reported ∨ e.1 ∈ s.failed) ∧
    s' = { s with watchClosed := true, main := .join } := by
  unfold waitQueue at h
  split_ifs at h with hg
  exact ⟨hg.1, hg.2, (Option.some.inj h).symm⟩

theorem join_spec (h : s.join = some s') : s.main = .join ∧ s.watcherDone = true ∧
    s' = { s with main := .done } := by
  unfold join at h
  split_ifs at h with hg
  exact ⟨hg.1, hg.2, (Option.some.inj h).symm⟩

end Pull

@[simp] theorem Callback.holds_idle (q : WrappedPointer) : Callback.idle.holds q = 0 := rfl

@[simp] theorem Callback.holds_link (p q : WrappedPointer) :
    (Callback.link p).holds q = if p = q then 1 else 0 := rfl

@[simp] theorem Callback.holds_add (p q : WrappedPointer) :
    (Callback.add p).holds q = if p = q then 1 else 0 := rfl

/-- What holds of `pull` at every point of a run over the pointers `ps`. Each delivered
pointer is in exactly one place: checked out, recorded in `pointerMap`, or in the callback
(`place`); `pointerMap` returns what it recorded (`conserve`). A recorded oid is queued and
not yet drained; a stored object is downloaded, and a downloaded oid is reported, drained, or
on its way to the watcher. -/
structure Inv (ps : List WrappedPointer) (s : Pull) : Prop where
  scan : s.delivered ++ s.scan = ps
  pointers : s.pointers.WellFormed
  place : ∀ p, s.runs.count p + s.pointers.mapped.count p + s.callback.holds p =
    s.delivered.count p
  conserve : ∀ p, s.recorded.count p = s.returned.count p + s.pointers.mapped.count p
  queuedSizes : ∀ e ∈ s.queued, ∃ p ∈ ps, p.oid = e.1 ∧ p.size = e.2
  ran : ∀ p ∈ s.runs, (p.oid, p.size) ∈ s.store
  keyQueued : ∀ x ∈ s.pointers.keys, x ∈ s.queued.map (·.1) ∧ x ∉ s.alled
  keyStored : ∀ p ∈ ps, p.oid ∈ s.pointers.keys → (p.oid, p.size) ∈ s.store → p.oid ∈ s.stored
  queuedKey : ∀ x ∈ s.queued.map (·.1), x ∈ s.pointers.keys ∨ x ∈ s.alled
  alled : ∀ x ∈ s.alled, x ∈ s.stored
  stored : ∀ x ∈ s.stored, x ∈ s.queued.map (·.1) ∧ x ∉ s.failed ∧
    ∀ p ∈ ps, p.oid = x → (x, p.size) ∈ s.store
  reported : ∀ x ∈ s.reported, x ∈ s.stored ∧ (x ∈ s.dlwatch ∨ s.watcher = some x ∨ x ∈ s.alled)
  watching : ∀ x ∈ s.dlwatch, x ∈ s.reported
  holding : ∀ x, s.watcher = some x → x ∈ s.reported
  linking : ∀ p, s.callback = .link p →
    p.oid ∉ s.pointers.keys ∧ (p.oid ∈ s.queued.map (·.1) → p.oid ∈ s.alled)
  adding : ∀ p, s.callback = .add p →
    p.oid ∉ s.pointers.keys ∧ p.oid ∉ s.queued.map (·.1) ∧ (p.oid, p.size) ∉ s.store
  closed : s.watcherDone = true → s.dlwatch = [] ∧ s.watcher = none ∧ s.watchClosed = true
  ended : s.main ≠ .scanning → s.scan = [] ∧ s.callback = .idle
  waited : s.main = .join ∨ s.main = .done →
    ∀ x ∈ s.queued.map (·.1), x ∈ s.reported ∨ x ∈ s.failed
  joined : s.main = .done → s.watcherDone = true

namespace Inv

variable {ps : List WrappedPointer} {s s' : Pull} {b : Bool} {x : Oid}

theorem init (ps : List WrappedPointer) (st : List (Oid × Int)) : Inv ps (Pull.init ps st) where
  scan := rfl
  pointers := ⟨List.nodup_nil, by simp [Pull.init]⟩
  place _ := rfl
  conserve _ := rfl
  queuedSizes := by simp [Pull.init]
  ran := by simp [Pull.init]
  keyQueued := by simp [Pull.init, PointerMap.keys]
  keyStored := by simp [Pull.init, PointerMap.keys]
  queuedKey := by simp [Pull.init]
  alled := by simp [Pull.init]
  stored := by simp [Pull.init]
  reported := by simp [Pull.init]
  watching := by simp [Pull.init]
  holding := by simp [Pull.init]
  linking := by simp [Pull.init]
  adding := by simp [Pull.init]
  closed := by simp [Pull.init]
  ended := by simp [Pull.init]
  waited := by simp [Pull.init]
  joined := by simp [Pull.init]

theorem mem_of_delivered (hi : Inv ps s) {p : WrappedPointer} (h : 0 < s.delivered.count p) :
    p ∈ ps :=
  hi.scan ▸ List.mem_append_left _ (List.count_pos_iff.mp h)

theorem mem_of_holds (hi : Inv ps s) {p : WrappedPointer} (h : 0 < s.callback.holds p) : p ∈ ps :=
  hi.mem_of_delivered (by have := hi.place p; omega)

theorem mem_of_mapped (hi : Inv ps s) {p : WrappedPointer} (h : p ∈ s.pointers.mapped) : p ∈ ps :=
  hi.mem_of_delivered (by have := hi.place p; have := List.count_pos_iff.mpr h; omega)

theorem scanning (hi : Inv ps s) (hc : s.callback ≠ .idle) : s.main = .scanning :=
  Classical.byContradiction fun hm => hc (hi.ended hm).2

theorem deliver (hi : Inv ps s) (h : s.deliver = some s') : Inv ps s' := by
  obtain ⟨hm, hc, p, rest, hs, ⟨hk, rfl⟩ | ⟨hk, rfl⟩⟩ := Pull.deliver_spec h
  all_goals have hscan : s.delivered ++ [p] ++ rest = ps := by simpa [hs] using hi.scan
  · exact { hi with
      scan := hscan
      pointers := hi.pointers.append p
      place := fun q => by
        have := hi.place q
        simp only [hi.pointers.count_mapped_append hk, hc, Callback.holds_idle, List.count_append,
          List.count_singleton', beq_iff_eq] at this ⊢
        split_ifs <;> omega
      conserve := fun q => by
        have := hi.conserve q
        simp only [hi.pointers.count_mapped_append hk, List.count_append, List.count_singleton',
          beq_iff_eq] at this ⊢
        split_ifs <;> omega
      keyQueued := by simpa only [PointerMap.keys_append] using hi.keyQueued
      keyStored := by simpa only [PointerMap.keys_append] using hi.keyStored
      queuedKey := by simpa only [PointerMap.keys_append] using hi.queuedKey
      linking := by simp [hc]
      adding := by simp [hc]
      ended := fun h => absurd hm h }
  · exact { hi with
      scan := hscan
      place := fun q => by
        have := hi.place q
        simp only [hc, Callback.holds_idle, Callback.holds_link, List.count_append,
          List.count_singleton', beq_iff_eq] at this ⊢
        split_ifs <;> omega
      linking := fun q hq => by
        cases hq
        exact ⟨hk, fun hx => (hi.queuedKey _ hx).resolve_left hk⟩
      adding := by simp
      ended := fun h => absurd hm h }

theorem link (hi : Inv ps s) (h : s.link b = some s') : Inv ps s' := by
  obtain ⟨p, hc, new, hnew, ⟨hin, rfl⟩ | ⟨hin, rfl⟩⟩ := Pull.link_spec h
  all_goals
    obtain ⟨hk, hq⟩ := hi.linking p hc
    have hp : p ∈ ps := hi.mem_of_holds (by simp [hc])
    have hm : s.main = .scanning := hi.scanning (by simp [hc])
    have keyStored : ∀ q ∈ ps, q.oid ∈ s.pointers.keys → (q.oid, q.size) ∈ s.store ++ new →
        q.oid ∈ s.stored := fun q hq hkq hs => by
      rcases List.mem_append.mp hs with hs | hs
      · exact hi.keyStored q hq hkq hs
      · exact absurd ((Prod.mk.inj (hnew _ hs)).1 ▸ hkq) hk
    have stored : ∀ y ∈ s.stored, y ∈ s.queued.map (·.1) ∧ y ∉ s.failed ∧
        ∀ q ∈ ps, q.oid = y → (y, q.size) ∈ s.store ++ new := fun y hy =>
      let ⟨h₁, h₂, h₃⟩ := hi.stored y hy
      ⟨h₁, h₂, fun q hq hqy => List.mem_append_left _ (h₃ q hq hqy)⟩
    have ran : ∀ q ∈ s.runs, (q.oid, q.size) ∈ s.store ++ new :=
      fun q hq => List.mem_append_left _ (hi.ran q hq)
  · exact { hi with
      place := fun q => by
        have := hi.place q
        simp only [hc, Callback.holds_idle, Callback.holds_link, List.count_append,
          List.count_singleton', beq_iff_eq] at this ⊢
        split_ifs at this ⊢ <;> omega
      ran := fun q hq => by
        rcases List.mem_append.mp hq with hq | hq
        · exact ran q hq
        · cases List.mem_singleton.mp hq
          exact hin
      keyStored, stored
      linking := by simp
      adding := by simp
      ended := fun h => absurd hm h }
  · exact { hi with
      place := fun q => by simpa [hc] using hi.place q
      ran, keyStored, stored
      linking := by simp
      adding := fun q hq => by
        cases hq
        refine ⟨hk, fun hx => hin (List.mem_append_left _ ?_), hin⟩
        exact (hi.stored _ (hi.alled _ (hq hx))).2.2 p hp rfl
      ended := fun h => absurd hm h }

section
variable (hsz : ∀ p ∈ ps, ∀ q ∈ ps, p.oid = q.oid → p.size = q.size)
include hsz

theorem add (hi : Inv ps s) (h : s.add = some s') : Inv ps s' := by
  obtain ⟨p, hc, rfl⟩ := Pull.add_spec h
  obtain ⟨hk, hq, hst⟩ := hi.adding p hc
  have hp : p ∈ ps := hi.mem_of_holds (by simp [hc])
  have hm : s.main = .scanning := hi.scanning (by simp [hc])
  have hkeys : (s.pointers.add p).keys = s.pointers.keys ++ [p.oid] := by
    simp [PointerMap.add_of_not_mem hk, PointerMap.keys]
  rw [if_neg hq]
  exact { hi with
    pointers := hi.pointers.add p
    place := fun q => by
      have := hi.place q
      simp only [PointerMap.count_mapped_add hk, hc, Callback.holds_idle, Callback.holds_add]
        at this ⊢
      omega
    conserve := fun q => by
      have := hi.conserve q
      simp only [PointerMap.count_mapped_add hk, List.count_append, List.count_singleton',
        beq_iff_eq] at this ⊢
      split_ifs <;> omega
    queuedSizes := fun e he => by
      rcases List.mem_append.mp he with he | he
      · exact hi.queuedSizes e he
      · cases List.mem_singleton.mp he
        exact ⟨p, hp, rfl, rfl⟩
    keyQueued := by
      simp only [hkeys, List.mem_append, List.mem_singleton, List.map_append, List.map_cons,
        List.map_nil]
      rintro x (hx | rfl)
      · exact ⟨.inl (hi.keyQueued x hx).1, (hi.keyQueued x hx).2⟩
      · exact ⟨by simp, fun ha => hq (hi.stored _ (hi.alled _ ha)).1⟩
    keyStored := fun q hq' hkq hs => by
      rw [hkeys] at hkq
      rcases List.mem_append.mp hkq with hkq | hkq
      · exact hi.keyStored q hq' hkq hs
      · have hoid : q.oid = p.oid := List.mem_singleton.mp hkq
        exact absurd (hoid ▸ hsz q hq' p hp hoid ▸ hs) hst
    queuedKey := by
      simp only [hkeys, List.map_append, List.map_cons, List.map_nil, List.mem_append,
        List.mem_singleton]
      rintro x (hx | rfl)
      · exact (hi.queuedKey x hx).imp_left .inl
      · exact .inl (.inr rfl)
    stored := fun x hx =>
      let ⟨h₁, h₂, h₃⟩ := hi.stored x hx
      ⟨by simp only [List.map_append]; exact List.mem_append_left _ h₁, h₂, h₃⟩
    linking := by simp
    adding := by simp
    ended := fun h => absurd hm h
    waited := fun h => by rcases h with h | h <;> simp [hm] at h
    joined := fun h => by simp [hm] at h }

theorem download (hi : Inv ps s) (h : s.download x = some s') : Inv ps s' := by
  obtain ⟨size, hq, hns, hnf, rfl⟩ := Pull.download_spec h
  obtain ⟨p₀, hp₀, hx, hsize⟩ := hi.queuedSizes _ hq
  dsimp only at hx hsize
  have hxq : x ∈ s.queued.map (·.1) := List.mem_map_of_mem _ hq
  exact { hi with
    ran := fun q hq' => List.mem_append_left _ (hi.ran q hq')
    keyStored := fun q hq' hkq hs => by
      rcases List.mem_append.mp hs with hs | hs
      · exact List.mem_append_left _ (hi.keyStored q hq' hkq hs)
      · simp_all
    alled := fun y hy => List.mem_append_left _ (hi.alled y hy)
    stored := by
      simp only [List.mem_append, List.mem_singleton]
      rintro y (hy | rfl)
      · obtain ⟨h₁, h₂, h₃⟩ := hi.stored y hy
        exact ⟨h₁, h₂, fun q hq' hqy => .inl (h₃ q hq' hqy)⟩
      · refine ⟨hxq, hnf, fun q hq' hqy => .inr ?_⟩
        rw [hsz q hq' p₀ hp₀ (hqy.trans hx.symm), hsize]
    reported := fun y hy =>
      let ⟨h₁, h₂⟩ := hi.reported y hy
      ⟨List.mem_append_left _ h₁, h₂⟩
    adding := fun q hc => by
      obtain ⟨h₁, h₂, h₃⟩ := hi.adding q hc
      refine ⟨h₁, h₂, fun hs => ?_⟩
      rcases List.mem_append.mp hs with hs | hs
      · exact h₃ hs
      · exact h₂ ((Prod.mk.inj (List.mem_singleton.mp hs)).1 ▸ hxq) }

end

theorem report (hi : Inv ps s) (h : s.report x = some s') : Inv ps s' := by
  obtain ⟨hx, hwc, rfl⟩ := Pull.report_spec h
  exact { hi with
    reported := by
      simp only [List.mem_append, List.mem_singleton]
      rintro y (hy | rfl)
      · obtain ⟨h₁, h₂⟩ := hi.reported y hy
        exact ⟨h₁, h₂.imp_left .inl⟩
      · exact ⟨hx, .inl (.inr rfl)⟩
    watching := by
      simp only [List.mem_append, List.mem_singleton]
      rintro y (hy | rfl)
      · exact .inl (hi.watching y hy)
      · exact .inr rfl
    holding := fun y hy => List.mem_append_left _ (hi.holding y hy)
    closed := fun hd => absurd (hi.closed hd).2.2 (by simp [hwc])
    waited := fun hm y hy => (hi.waited hm y hy).imp_left (List.mem_append_left _) }

theorem fail (hi : Inv ps s) (h : s.fail x = some s') : Inv ps s' := by
  obtain ⟨hx, rfl⟩ := Pull.fail_spec h
  exact { hi with
    stored := fun y hy => by
      obtain ⟨h₁, h₂, h₃⟩ := hi.stored y hy
      refine ⟨h₁, ?_, h₃⟩
      simp only [List.mem_append, List.mem_singleton, not_or]
      exact ⟨h₂, fun hxy => hx (hxy ▸ hy)⟩
    waited := fun hm y hy => (hi.waited hm y hy).imp_right (List.mem_append_left _) }

theorem receive (hi : Inv ps s) (h : s.receive = some s') : Inv ps s' := by
  obtain ⟨hw, ⟨y, rest, hd, rfl⟩ | ⟨hd, hwc, rfl⟩⟩ := Pull.receive_spec h
  · exact { hi with
      reported := fun z hz => by
        obtain ⟨h₁, h₂⟩ := hi.reported z hz
        refine ⟨h₁, ?_⟩
        simp only [hd, List.mem_cons, hw, reduceCtorEq, false_or, Option.some.injEq] at h₂ ⊢
        rcases h₂ with (rfl | h₂) | h₂
        · exact .inr (.inl rfl)
        · exact .inl h₂
        · exact .inr (.inr h₂)
      watching := fun z hz => hi.watching z (by simp [hd, hz])
      holding := fun z hz => by
        cases hz
        exact hi.watching _ (by simp [hd])
      closed := fun hdone => absurd (hi.closed hdone).1 (by simp [hd]) }
  · exact { hi with
      closed := fun _ => ⟨hd, hw, hwc⟩
      joined := fun _ => rfl }

theorem all (hi : Inv ps s) (h : s.all = some s') : Inv ps s' := by
  obtain ⟨x, hw, rfl⟩ := Pull.all_spec h
  have hx : x ∈ s.stored := (hi.reported x (hi.holding x hw)).1
  have hkeys := PointerMap.keys_all s.pointers x
  exact { hi with
    pointers := hi.pointers.all x
    place := fun q => by
      have := hi.place q
      have := PointerMap.count_mapped_all s.pointers x q
      simp only [List.count_append] at this ⊢
      omega
    conserve := fun q => by
      have := hi.conserve q
      have := PointerMap.count_mapped_all s.pointers x q
      simp only [List.count_append] at this ⊢
      omega
    ran := fun q hq => by
      rcases List.mem_append.mp hq with hq | hq
      · exact hi.ran q hq
      · have hqx := hi.pointers.oid_of_mem_all hq
        have hqm : q ∈ s.pointers.mapped := List.count_pos_iff.mp (by
          have := PointerMap.count_mapped_all s.pointers x q
          have := List.count_pos_iff.mpr hq
          omega)
        exact hqx ▸ (hi.stored x hx).2.2 q (hi.mem_of_mapped hqm) hqx
    keyQueued := fun y hy => by
      rw [hkeys, List.mem_filter, decide_eq_true_iff] at hy
      obtain ⟨h₁, h₂⟩ := hi.keyQueued y hy.1
      simp only [List.mem_append, List.mem_singleton, not_or]
      exact ⟨h₁, h₂, hy.2⟩
    keyStored := fun q hq hkq hs => by
      rw [hkeys, List.mem_filter] at hkq
      exact hi.keyStored q hq hkq.1 hs
    queuedKey := fun y hy => by
      rw [hkeys, List.mem_filter, decide_eq_true_iff, List.mem_append, List.mem_singleton]
      by_cases hyx : y = x
      · exact .inr (.inr hyx)
      · exact (hi.queuedKey y hy).imp (fun h => ⟨h, hyx⟩) .inl
    alled := by
      simp only [List.mem_append, List.mem_singleton]
      rintro y (hy | rfl)
      · exact hi.alled y hy
      · exact hx
    reported := fun y hy => by
      obtain ⟨h₁, h₂⟩ := hi.reported y hy
      refine ⟨h₁, ?_⟩
      simp only [hw, Option.some.injEq, List.mem_append, List.mem_singleton, reduceCtorEq,
        false_or] at h₂ ⊢
      rcases h₂ with h₂ | rfl | h₂
      · exact .inl h₂
      · exact .inr (.inr rfl)
      · exact .inr (.inl h₂)
    holding := by simp
    linking := fun p hc => by
      obtain ⟨h₁, h₂⟩ := hi.linking p hc
      rw [hkeys, List.mem_filter]
      exact ⟨fun h => h₁ h.1, fun h => List.mem_append_left _ (h₂ h)⟩
    adding := fun p hc => by
      obtain ⟨h₁, h₂⟩ := hi.adding p hc
      rw [hkeys, List.mem_filter]
      exact ⟨fun h => h₁ h.1, h₂⟩
    closed := fun hd => absurd (hi.closed hd).2.1 (by simp [hw]) }

theorem finishScan (hi : Inv ps s) (h : s.finishScan = some s') : Inv ps s' := by
  obtain ⟨-, hs, hc, rfl⟩ := Pull.finishScan_spec h
  exact { hi with
    ended := fun _ => ⟨hs, hc⟩
    waited := by simp
    joined := by simp }

theorem waitQueue (hi : Inv ps s) (h : s.waitQueue = some s') : Inv ps s' := by
  obtain ⟨hm, hq, rfl⟩ := Pull.waitQueue_spec h
  exact { hi with
    closed := fun hd => ⟨(hi.closed hd).1, (hi.closed hd).2.1, rfl⟩
    ended := fun _ => hi.ended (by simp [hm])
    waited := fun _ y hy => by
      obtain ⟨e, he, rfl⟩ := List.mem_map.mp hy
      exact hq e he
    joined := by simp }

theorem join (hi : Inv ps s) (h : s.join = some s') : Inv ps s' := by
  obtain ⟨hm, hd, rfl⟩ := Pull.join_spec h
  exact { hi with
    ended := fun _ => hi.ended (by simp [hm])
    waited := fun _ => hi.waited (.inl hm)
    joined := fun _ => hd }

theorem step (hsz : ∀ p ∈ ps, ∀ q ∈ ps, p.oid = q.oid → p.size = q.size) (hi : Inv ps s)
    {a : PullAct} (h : pullStep s a = some s') : Inv ps s' := by
  cases a with
  | deliver => exact hi.deliver h
  | link b => exact hi.link h
  | add => exact hi.add hsz h
  | download x => exact hi.download hsz h
  | report x => exact hi.report h
  | fail x => exact hi.fail h
  | receive => exact hi.receive h
  | all => exact hi.all h
  | finishScan => exact hi.finishScan h
  | waitQueue => exact hi.waitQueue h
  | join => exact hi.join h

theorem alled_of_stored (hi : Inv ps s) (hm : s.main = .done) (hx : x ∈ s.stored) :
    x ∈ s.reported ∧ x ∈ s.alled := by
  obtain ⟨hq, hf, -⟩ := hi.stored x hx
  have hr := (hi.waited (.inr hm) x hq).resolve_right hf
  obtain ⟨hdl, hw, -⟩ := hi.closed (hi.joined hm)
  obtain ⟨-, h⟩ := hi.reported x hr
  simpa [hdl, hw, hr] using h

end Inv

theorem PullReachable.inv {ps : List WrappedPointer} {st : List (Oid × Int)} {s : Pull}
    (hsz : ∀ p ∈ ps, ∀ q ∈ ps, p.oid = q.oid → p.size = q.size) (h : PullReachable ps st s) :
    Inv ps s := by
  induction h with
  | init => exact Inv.init ps st
  | step _ hs ih => exact ih.step hsz hs

/-- If the pointers to one oid all carry one size: `pointerMap` returns each recorded
pointer once and keeps the rest, no pointer is checked out more often than the scanner
delivered it, and once `pull` returns every downloaded object was reported and each
delivered pointer has been checked out exactly once if its object is stored with its size,
and never otherwise. -/
theorem pull_checks_out {ps : List WrappedPointer} {st : List (Oid × Int)} {s : Pull}
    (hn : ps.Nodup) (hsz : ∀ p ∈ ps, ∀ q ∈ ps, p.oid = q.oid → p.size = q.size)
    (h : PullReachable ps st s) :
    (∀ p, s.recorded.count p = s.returned.count p + s.pointers.mapped.count p) ∧
    (∀ p, s.runs.count p ≤ ps.count p) ∧
    (s.main = .done → (∀ x ∈ s.stored, x ∈ s.reported) ∧
      ∀ p ∈ ps, s.runs.count p = if (p.oid, p.size) ∈ s.store then 1 else 0) := by
  have hi := h.inv hsz
  refine ⟨hi.conserve, fun p => ?_, fun hm => ⟨fun x hx => (hi.alled_of_stored hm hx).1, ?_⟩⟩
  · have := hi.place p
    rw [← hi.scan, List.count_append]
    omega
  · obtain ⟨hs, hc⟩ := hi.ended (by simp [hm])
    intro p hp
    have hd : s.delivered = ps := by simpa [hs] using hi.scan
    have hplace := hi.place p
    rw [hc, Callback.holds_idle, hd, List.count_eq_one_of_mem hn hp] at hplace
    split_ifs with hst
    · have hm' : s.pointers.mapped.count p = 0 := List.count_eq_zero.mpr fun hmp =>
        have hk := hi.pointers.oid_mem_keys hmp
        (hi.keyQueued _ hk).2 (hi.alled_of_stored hm (hi.keyStored p hp hk hst)).2
      omega
    · exact List.count_eq_zero.mpr fun hr => hst (hi.ran p hr)

def pullRun : Pull → List PullAct → Option Pull
  | s, [] => some s
  | s, a :: as => (pullStep s a).bind (pullRun · as)

theorem PullReachable.run {ps : List WrappedPointer} {st : List (Oid × Int)} :
    ∀ {s s' : Pull} {as : List PullAct}, PullReachable ps st s → pullRun s as = some s' →
      PullReachable ps st s'
  | _, _, [], hs, h => by cases h; exact hs
  | s, _, a :: as, hs, h => by
    simp only [pullRun] at h
    cases hst : pullStep s a with
    | none => simp [hst] at h
    | some s₁ =>
      simp only [hst, Option.bind_some] at h
      exact PullReachable.run (.step hs hst) h

/-- Two paths to `a` and one to `b`, whose object is stored: the scanner checks out `z` at
once and the watcher both paths to `a` after its download. -/
def pullPointers : List WrappedPointer := [⟨"x", "a", 1⟩, ⟨"y", "a", 1⟩, ⟨"z", "b", 2⟩]

def pullTrace : List PullAct :=
  [.deliver, .link false, .add, .deliver, .deliver, .link false, .download "a", .report "a",
    .receive, .all, .finishScan, .waitQueue, .receive, .join]

def pullExample : Pull :=
  (pullRun (Pull.init pullPointers [("b", 2)]) pullTrace).getD (Pull.init pullPointers [("b", 2)])

theorem pullExample_checks_out :
    pullPointers.Nodup ∧
    (∀ p ∈ pullPointers, ∀ q ∈ pullPointers, p.oid = q.oid → p.size = q.size) ∧
    ((∀ p, pullExample.recorded.count p =
        pullExample.returned.count p + pullExample.pointers.mapped.count p) ∧
      (∀ p, pullExample.runs.count p ≤ pullPointers.count p) ∧
      (pullExample.main = .done → (∀ x ∈ pullExample.stored, x ∈ pullExample.reported) ∧
        ∀ p ∈ pullPointers, pullExample.runs.count p =
          if (p.oid, p.size) ∈ pullExample.store then 1 else 0)) :=
  ⟨by decide, by decide, pull_checks_out (by decide) (by decide) (PullReachable.run .init
    (rfl : pullRun (Pull.init pullPointers [("b", 2)]) pullTrace = some pullExample))⟩

example : pullExample.main = .done ∧ pullExample.runs.map (·.name) = ["z", "x", "y"] := by
  decide

/-- Two paths to `a` with different sizes, the object of the second stored from the start.
The first is recorded and queued; `Seen` records the second behind it, so its stored object
is never looked at; the download fails, and `pull` returns without checking out either. -/
def droppedPointers : List WrappedPointer := [⟨"x", "a", 2⟩, ⟨"y", "a", 1⟩]

def droppedTrace : List PullAct :=
  [.deliver, .link false, .add, .deliver, .fail "a", .finishScan, .waitQueue, .receive, .join]

def droppedPull : Pull :=
  (pullRun (Pull.init droppedPointers [("a", 1)]) droppedTrace).getD
    (Pull.init droppedPointers [("a", 1)])

theorem pull_drops_stored_pointer :
    PullReachable droppedPointers [("a", 1)] droppedPull ∧ droppedPull.main = .done ∧
      ("a", 1) ∈ droppedPull.store ∧ droppedPull.runs = [] ∧ droppedPull.reported = [] ∧
      droppedPull.pointers = [("a", droppedPointers)] :=
  ⟨PullReachable.run .init
    (rfl : pullRun (Pull.init droppedPointers [("a", 1)]) droppedTrace = some droppedPull),
   by decide⟩

end GitLfs.Commands
