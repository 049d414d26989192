import GitLfs.Commands.Prune

/-! # `git lfs fetch`

`fetchCommand` settles the remote and the refs from its arguments, then fetches either every
object ever referenced (`--all`) or the tree at each ref, followed by the recent refs and
commits. A run is written as what it prints and fetches, in order, and what it returns; the
`Exit` or `Panic` that ends the process is its last event.
-/

namespace GitLfs.Commands

/-- `git.Ref`, with what `fetch` reads of it. -/
structure Ref where
  name : String
  sha : Sha
  deriving DecidableEq, Repr

/-- What a fetch downloads: the objects of the tree at a commit (`fetchRef`), of the versions
before a commit since a time (`fetchPreviousVersions`), or every object ever referenced
(`fetchAll`). Times are seconds. -/
inductive Target
  | ref (sha : Sha)
  | previousVersions (sha : Sha) (since : Int)
  | all
  deriving DecidableEq, Repr

/-- What a run of `fetch` does that can be seen, in order. A line of `Print`, `Error`,
`tracerx.Printf`, `Exit` or `Panic` is its format and its arguments as `%v` prints them;
`fetch` is a download from a remote, whether its queue reported no error, and a ghost flag,
read only by the proofs, that says whether the caller keeps that result; `prune` is the call
of `prune`. -/
inductive Event
  | print (format : String) (args : List String)
  | error (format : String) (args : List String)
  | trace (format : String) (args : List String)
  | fullError (err : String)
  | fetch (remote : String) (target : Target) (ok : Bool) (kept : Bool)
  | prune (verifyRemote : Bool)
  | exit (format : String) (args : List String)
  | abort (format : String) (args : List String)
  deriving DecidableEq, Repr

/-- A fetch whose download queue reported errors, and whose result the caller keeps. -/
def Event.failed : Event → Bool
  | .fetch _ _ ok kept => kept && !ok
  | _ => false

/-- `Exit` or `Panic`, which end the process. -/
def Event.stops : Event → Bool
  | .exit _ _ | .abort _ _ => true
  | _ => false

/-- The commit whose tree a fetch downloaded. -/
def Event.refFetched : Event → Option Sha
  | .fetch _ (.ref sha) _ _ => some sha
  | _ => none

/-- The commit whose previous versions a fetch downloaded. -/
def Event.previousFetched : Event → Option Sha
  | .fetch _ (.previousVersions sha _) _ _ => some sha
  | _ => none

/-- The target of a fetch. -/
def Event.target : Event → Option Target
  | .fetch _ t _ _ => some t
  | _ => none

/-- The event, with a fetch marked as one whose result the caller drops. -/
def Event.drop : Event → Event
  | .fetch r t ok _ => .fetch r t ok false
  | ev => ev

@[simp] theorem Event.failed_drop (ev : Event) : ev.drop.failed = false := by cases ev <;> rfl
@[simp] theorem Event.stops_drop (ev : Event) : ev.drop.stops = ev.stops := by cases ev <;> rfl
@[simp] theorem Event.refFetched_drop (ev : Event) : ev.drop.refFetched = ev.refFetched := by
  cases ev with
  | fetch _ t => cases t <;> rfl
  | _ => rfl
@[simp] theorem Event.previousFetched_drop (ev : Event) :
    ev.drop.previousFetched = ev.previousFetched := by
  cases ev with
  | fetch _ t => cases t <;> rfl
  | _ => rfl
@[simp] theorem Event.target_drop (ev : Event) : ev.drop.target = ev.target := by cases ev <;> rfl
@[simp] theorem Event.refFetched_comp_drop : Event.refFetched ∘ Event.drop = Event.refFetched :=
  funext Event.refFetched_drop
@[simp] theorem Event.previousFetched_comp_drop :
    Event.previousFetched ∘ Event.drop = Event.previousFetched :=
  funext Event.previousFetched_drop

/-- A run of a command: what it did, and what it returned, `none` when it ended the
process. -/
structure Run (α : Type) where
  events : List Event
  result : Option α

instance : Monad Run where
  pure a := ⟨[], some a⟩
  bind r f :=
    match r.result with
    | none => ⟨r.events, none⟩
    | some a => ⟨r.events ++ (f a).events, (f a).result⟩

namespace Run

/-- `Print`, `Error` or another event after which the run goes on. -/
def emit (e : Event) : Run Unit := ⟨[e], some ()⟩

/-- `if c { ... }` around an event after which the run goes on. -/
def emitIf (c : Bool) (e : Event) : Run Unit := if c then emit e else pure ()

/-- `Exit` or `Panic`: the run's last event. -/
def halt (e : Event) : Run α := ⟨[e], none⟩

/-- A call whose result the caller drops: its fetches are marked so. -/
def dropResult (r : Run α) : Run α := ⟨r.events.map Event.drop, r.result⟩

variable {α β : Type}

@[simp] theorem pure_events (a : α) : (pure a : Run α).events = [] := rfl
@[simp] theorem pure_result (a : α) : (pure a : Run α).result = some a := rfl
@[simp] theorem pure_bind (a : α) (f : α → Run β) : (pure a : Run α) >>= f = f a := rfl
@[simp] theorem emit_bind (e : Event) (f : Unit → Run β) :
    emit e >>= f = ⟨e :: (f ()).events, (f ()).result⟩ := rfl
@[simp] theorem halt_bind (e : Event) (f : α → Run β) : (halt e : Run α) >>= f = halt e := rfl
@[simp] theorem halt_events (e : Event) : (halt e : Run α).events = [e] := rfl
@[simp] theorem halt_result (e : Event) : (halt e : Run α).result = none := rfl
@[simp] theorem emit_events (e : Event) : (emit e).events = [e] := rfl
@[simp] theorem emit_result (e : Event) : (emit e).result = some () := rfl
@[simp] theorem emitIf_bind (c : Bool) (e : Event) (f : Unit → Run β) :
    emitIf c e >>= f = ⟨(if c then [e] else []) ++ (f ()).events, (f ()).result⟩ := by
  cases c <;> rfl
@[simp] theorem dropResult_events (r : Run α) : r.dropResult.events = r.events.map Event.drop :=
  rfl
@[simp] theorem dropResult_result (r : Run α) : r.dropResult.result = r.result := rfl

@[simp] theorem mk_bind_some (es : List Event) (a : α) (f : α → Run β) :
    (⟨es, some a⟩ : Run α) >>= f = ⟨es ++ (f a).events, (f a).result⟩ := rfl

theorem bind_eq (r : Run α) (f : α → Run β) : r >>= f =
    match r.result with
    | none => ⟨r.events, none⟩
    | some a => ⟨r.events ++ (f a).events, (f a).result⟩ := rfl

theorem bind_events (r : Run α) (f : α → Run β) :
    (r >>= f).events = r.events ++ (match r.result with | some a => (f a).events | none => []) := by
  rw [bind_eq]; split <;> simp_all

theorem bind_result (r : Run α) (f : α → Run β) :
    (r >>= f).result = r.result.bind fun a => (f a).result := by
  rw [bind_eq]; split <;> simp_all

end Run

open Run

/-- `cfg.FetchPruneConfig()`, with what `fetch` reads of it. -/
structure FetchPruneConfig where
  fetchRecentRefsDays : Int
  fetchRecentRefsIncludeRemotes : Bool
  fetchRecentCommitsDays : Int
  fetchRecentAlways : Bool
  pruneVerifyRemoteAlways : Bool

/-- The flags of `git lfs fetch`; `includeChanged` and `excludeChanged` are whether
`--include` and `--exclude` were given, which `getIncludeExcludeArgs` reads. -/
structure FetchFlags where
  recent : Bool
  all : Bool
  prune : Bool
  includeChanged : Bool
  excludeChanged : Bool

/-- What `fetch` gets from outside: git's answers (`none` for an error), the clock, whether
each scan for pointers succeeds, the errors the download queue reports for a fetch, whether
the global include or exclude paths are set, and the order in which `range` visits a map,
which Go leaves open. -/
structure FetchEnv where
  validateRemote : String → Bool
  resolveRefs : List String → Option (List Ref)
  currentRef : Option Ref
  defaultRemote : Option String
  now : Int
  addDays : Int → Int → Int
  recentBranches : Int → Bool → String → Option (List Ref)
  commitDate : Sha → Except String Int
  scans : Target → Bool
  errors : String → Target → List String
  globalPaths : Bool
  rangeOrder : List (Sha × String) → List (Sha × String)

variable (e : FetchEnv)

/-- The lazy start of `fetchAndReportToChan`: with no current remote, the default remote
becomes the current one, or the process exits. -/
def currentRemote (remote : String) : Run String :=
  if remote.isEmpty then
    match e.defaultRemote with
    | none => halt (.exit "No default remote" [])
    | some r => pure r
  else pure remote

/-- `fetchAndReportToChan` with no `out` channel, from the current remote: the queue's errors
are printed with `FullError`, and the fetch succeeds when there is none. -/
def fetchPointers (remote : String) (t : Target) : Run (String × Bool) := do
  let remote ← currentRemote e remote
  let errs := e.errors remote t
  ⟨.fetch remote t errs.isEmpty true :: errs.map .fullError, some (remote, errs.isEmpty)⟩

/-- `fetchRef(ref, filter)`: the pointers of the tree at `sha`, then their fetch. -/
def fetchRef (remote : String) (sha : Sha) : Run (String × Bool) :=
  if e.scans (.ref sha) then fetchPointers e remote (.ref sha)
  else halt (.abort "Could not scan for Git LFS files" [])

/-- `fetchPreviousVersions(ref, since, filter)`. -/
def fetchPreviousVersions (remote : String) (sha : Sha) (since : Int) : Run (String × Bool) :=
  if e.scans (.previousVersions sha since) then fetchPointers e remote (.previousVersions sha since)
  else halt (.abort "Could not scan for Git LFS previous versions" [])

/-- `fetchAll()`: `scanAll`, then the fetch of what it found, with no filter. -/
def fetchAll (remote : String) : Run (String × Bool) := do
  emit (.print "Scanning for all objects ever referenced..." [])
  if e.scans .all then do
    emit (.print "Fetching objects..." [])
    fetchPointers e remote .all
  else halt (.abort "Could not scan for Git LFS files" [])

/-- `m[k] = v` on a map kept as its entries, each key once, in the order first set. -/
def put (m : List (Sha × String)) (k : Sha) (v : String) : List (Sha × String) :=
  if (m.lookup k).isSome then m.map fun p => if p.1 = k then (k, v) else p else m ++ [(k, v)]

/-- The loop of `fetchRecent` over the recent branches: one whose sha is in `uniqueRefShas`
is skipped, any other is added to it and fetched. The `ok = ok && k` after the fetch assigns
the `ok` that the `if` declares, not the function's: the result of the fetch is dropped. -/
def fetchRecentRefs : List Ref → String → List (Sha × String) →
    Run (String × List (Sha × String))
  | [], remote, shas => pure (remote, shas)
  | ref :: refs, remote, shas =>
    match shas.lookup ref.sha with
    | some prevRefName => do
      emitIf (ref.name != prevRefName)
        (.trace "Skipping fetch for %v, already fetched via %v" [ref.name, prevRefName])
      fetchRecentRefs refs remote shas
    | none => do
      let shas := shas ++ [(ref.sha, ref.name)]
      emit (.print "Fetching %v" [ref.name])
      let (remote, _) ← dropResult (fetchRef e remote ref.sha)
      fetchRecentRefs refs remote shas

/-- The loop of `fetchRecent` over `uniqueRefShas`: a commit whose summary cannot be read is
reported and skipped; otherwise its previous versions since `days` before it are fetched. -/
def fetchRecentCommits (days : Int) : List (Sha × String) → String → Bool → Run Bool
  | [], _, ok => pure ok
  | (commit, refName) :: rest, remote, ok =>
    match e.commitDate commit with
    | .error err => do
      emit (.error "Couldn't scan commits at %v: %v" [refName, err])
      fetchRecentCommits days rest remote ok
    | .ok date => do
      emit (.print "Fetching changes within %v days of %v" [toString days, refName])
      let (remote, k) ← fetchPreviousVersions e remote commit (e.addDays date (-days))
      fetchRecentCommits days rest remote (ok && k)

/-- The recent branches part of `fetchRecent`, when `FetchRecentRefsDays` is positive. -/
def fetchRecentBranches (conf : FetchPruneConfig) (remote : String)
    (shas : List (Sha × String)) : Run (String × List (Sha × String)) :=
  if conf.fetchRecentRefsDays > 0 then do
    emit (.print "Fetching recent branches within %v days" [toString conf.fetchRecentRefsDays])
    match e.recentBranches (e.addDays e.now (-conf.fetchRecentRefsDays))
        conf.fetchRecentRefsIncludeRemotes remote with
    | none => halt (.abort "Could not scan for recent refs" [])
    | some refs => fetchRecentRefs e refs remote shas
  else pure (remote, shas)

/-- `fetchRecent(alreadyFetchedRefs, filter)`, with the current remote. -/
def fetchRecent (conf : FetchPruneConfig) (remote : String) (alreadyFetchedRefs : List Ref) :
    Run Bool :=
  if conf.fetchRecentRefsDays = 0 ∧ conf.fetchRecentCommitsDays = 0 then pure true
  else do
    let (remote, shas) ← fetchRecentBranches e conf remote
      (alreadyFetchedRefs.foldl (fun m ref => put m ref.sha ref.name) [])
    if conf.fetchRecentCommitsDays > 0 then
      fetchRecentCommits e conf.fetchRecentCommitsDays (e.rangeOrder shas) remote true
    else pure true

/-- The loop of `fetchCommand` over its refs, in order. -/
def fetchRefs : List Ref → String → Bool → Run (String × Bool)
  | [], remote, success => pure (remote, success)
  | ref :: refs, remote, success => do
    emit (.print "Fetching %v" [ref.name])
    let (remote, s) ← fetchRef e remote ref.sha
    fetchRefs refs remote (success && s)

/-- A `[]string` as `%v` prints it. -/
def sliceString (l : List String) : String := "[" ++ " ".intercalate l ++ "]"

/-- The remote of `fetchCommand`: its first argument, if it names a valid remote. -/
def remoteArg : List String → Run String
  | [] => pure ""
  | r :: _ => if e.validateRemote r then pure r else halt (.exit "Invalid remote name %q" [r])

/-- The refs of `fetchCommand`: those its other arguments resolve to; without them, the
current ref, unless `--all` is given. -/
def refsArg (all : Bool) : List String → Run (List Ref)
  | _ :: rest@(_ :: _) =>
    match e.resolveRefs rest with
    | none => halt (.abort "Invalid ref argument: %v" [sliceString rest])
    | some refs => pure refs
  | _ =>
    if all then pure []
    else
      match e.currentRef with
      | none => halt (.abort "Could not fetch" [])
      | some ref => pure [ref]

/-- The `--all` branch of `fetchCommand`. -/
def fetchAllChecked (flags : FetchFlags) (args : List String) (remote : String) :
    Run (String × Bool) :=
  if flags.recent || args.length > 1 then
    halt (.exit "Cannot combine --all with ref arguments or --recent" [])
  else if flags.includeChanged || flags.excludeChanged then
    halt (.exit "Cannot combine --all with --include or --exclude" [])
  else do
    emitIf e.globalPaths (.print "Ignoring global include / exclude paths to fulfil --all" [])
    fetchAll e remote

/-- The other branch of `fetchCommand`: the refs in order, then the recent ones. -/
def fetchRefsAndRecent (flags : FetchFlags) (conf : FetchPruneConfig) (refs : List Ref)
    (remote : String) : Run (String × Bool) := do
  let (remote, success) ← fetchRefs e refs remote true
  if flags.recent || conf.fetchRecentAlways then do
    let s ← fetchRecent e conf remote refs
    pure (remote, success && s)
  else pure (remote, success)

/-- `fetchCommand(cmd, args)`, in a repository (`requireInRepo` is not in the source). -/
def fetchCommand (flags : FetchFlags) (conf : FetchPruneConfig) (args : List String) :
    Run Unit := do
  let remote ← remoteArg e args
  let refs ← refsArg e flags.all args
  let (_, success) ← (if flags.all then fetchAllChecked e flags args remote
    else fetchRefsAndRecent e flags conf refs remote)
  emitIf flags.prune (.prune conf.pruneVerifyRemoteAlways)
  if !success then halt (.exit "Warning: errors occurred" [])

end GitLfs.Commands
