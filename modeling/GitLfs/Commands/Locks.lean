import Mathlib.Data.List.Basic

/-! # `git lfs locks` and `git lfs unlock`

`unlockCommand` looks up the lock of a path with a search request, then asks the API to
unlock it. `lockFromPath` reports one matching lock as ambiguous and takes the first of
several, and `LockService.Unlock` returns a copy of the response other than the one `API.Do`
decodes into.
-/

namespace GitLfs.Commands

/-- `api.Filter`: a property and the value it must have. -/
structure Filter where
  property : String
  value : String
  deriving DecidableEq, Repr

/-- `api.LockSearchRequest`. -/
structure LockSearchRequest where
  filters : List Filter
  cursor : String
  limit : Int
  deriving DecidableEq, Repr

/-- `api.Lock`, with the fields the commands print. -/
structure Lock where
  id : String
  path : String
  committerName : String
  committerEmail : String
  deriving DecidableEq, Repr

/-- `api.UnlockResponse`. -/
structure UnlockResponse where
  lock : Option Lock
  err : String
  deriving DecidableEq, Repr

/-- `api.RequestSchema`: the method and path of a request. -/
structure RequestSchema where
  method : String
  path : String
  deriving DecidableEq, Repr

/-- What the lock commands get from outside: the answer of `API.Do` to a search request
(`API.Locks.Search` is not in the source), and its error, if any, for another request. -/
structure LockEnv where
  search : LockSearchRequest → Except String (List Lock)
  send : RequestSchema → Option String

/-- `locksFlags`. -/
structure LocksFlags where
  path : String
  id : String
  cursor : String
  limit : Int

/-- `locksFlags.Filters()`: a filter for each flag that is set, path first. -/
def LocksFlags.filters (l : LocksFlags) : List Filter :=
  let filters := if l.path ≠ "" then [⟨"path", l.path⟩] else []
  if l.id ≠ "" then filters ++ [⟨"id", l.id⟩] else filters

/-- `LockService.Unlock(l)`: the request, and the response it returns, which is a copy of the
zero `UnlockResponse` and not the one `Into` holds. -/
def unlockRequest (l : Lock) : RequestSchema × UnlockResponse :=
  (⟨"POST", "/locks/" ++ l.id ++ "/unlock"⟩, ⟨none, ""⟩)

def errNoMatchingLocks : String := "lfs: no matching locks found"
def errLockAmbiguous : String := "lfs: multiple locks found; ambiguous"

/-- `lockFromPath(path)`. -/
def lockFromPath (env : LockEnv) (path : String) : Except String Lock :=
  match env.search ⟨[⟨"path", path⟩], "", 0⟩ with
  | .error err => .error err
  | .ok [] => .error errNoMatchingLocks
  | .ok [_] => .error errLockAmbiguous
  | .ok (l :: _ :: _) => .ok l

/-- How `unlockCommand` ends: the usage line; the line saying the path was unlocked; an
`Exit` after the errors printed; or a nil pointer dereference after them. -/
inductive UnlockOutcome
  | usage
  | unlocked (line : String)
  | exit (errors : List String) (message : String)
  | nilDeref (errors : List String)
  deriving DecidableEq, Repr

/-- `unlockCommand(cmd, args)`: the errors printed with `Error`, and how it ends. `Error`,
which is not in the source, prints and returns: the function follows it with `Exit` where it
means to stop. -/
def unlockCommand (env : LockEnv) : List String → UnlockOutcome
  | [] => .usage
  | path :: _ =>
    let (lock, errors) : Option Lock × List String :=
      match lockFromPath env path with
      | .error err => (none, [err])
      | .ok l => (some l, [])
    match lock with
    | none => .nilDeref errors
    | some l =>
      let (s, resp) := unlockRequest ⟨l.id, "", "", ""⟩
      match env.send s with
      | some err => .exit (errors ++ [err]) "Error communicating with LFS API."
      | none =>
        if resp.err.length > 0 then .exit (errors ++ [resp.err]) "Server unable to unlock lock."
        else
          match resp.lock with
          | some unlocked => .unlocked ("'" ++ path ++ "' was unlocked (" ++ unlocked.id ++ ")")
          | none => .nilDeref errors

/-- How `locksCommand` ends: the lines it prints, or an `Exit` after the error printed. -/
def locksCommand (env : LockEnv) (flags : LocksFlags) : Except (String × String) (List String) :=
  match env.search ⟨flags.filters, flags.cursor, flags.limit⟩ with
  | .error err => .error (err, "Error communicating with LFS API.")
  | .ok locks =>
    .ok (("\n" ++ toString locks.length ++ " lock(s) matched query:") ::
      locks.map fun l => l.path ++ "\t" ++ l.committerName ++ " <" ++ l.committerEmail ++ ">")

/-- `git lfs unlock <path>` never reports the path unlocked. With exactly one lock on the
path it reports the lookup ambiguous and then dereferences the nil lock; it ends without a
panic only by exiting after `API.Do` failed on the unlock request of the first of two or
more locks on the path. -/
theorem unlock_outcome (env : LockEnv) (path : String) (rest : List String) :
    (∀ line, unlockCommand env (path :: rest) ≠ .unlocked line) ∧
    (∀ l, env.search ⟨[⟨"path", path⟩], "", 0⟩ = .ok [l] →
      unlockCommand env (path :: rest) = .nilDeref [errLockAmbiguous]) ∧
    (∀ errors message, unlockCommand env (path :: rest) = .exit errors message →
      ∃ l l' ls err, env.search ⟨[⟨"path", path⟩], "", 0⟩ = .ok (l :: l' :: ls) ∧
        env.send (unlockRequest ⟨l.id, "", "", ""⟩).1 = some err ∧
        errors = [err] ∧ message = "Error communicating with LFS API.") := by
  have hcases : unlockCommand env (path :: rest) =
      match lockFromPath env path with
      | .error err => .nilDeref [err]
      | .ok l =>
        match env.send (unlockRequest ⟨l.id, "", "", ""⟩).1 with
        | some err => .exit [err] "Error communicating with LFS API."
        | none => .nilDeref [] := by
    cases h : lockFromPath env path with
    | error err => simp only [unlockCommand, h]
    | ok l =>
      cases hs : env.send (unlockRequest ⟨l.id, "", "", ""⟩).1 <;>
        simp only [unlockCommand, h, hs, unlockRequest] at hs ⊢ <;> rfl
  refine ⟨fun line => ?_, fun l hl => ?_, fun errors message h => ?_⟩
  · rw [hcases]
    split
    · exact nofun
    · split <;> exact nofun
  · rw [hcases, lockFromPath, hl]
  · rw [hcases] at h
    cases hs : env.search ⟨[⟨"path", path⟩], "", 0⟩ with
    | error err => simp [lockFromPath, hs] at h
    | ok locks =>
      rcases locks with _ | ⟨l, _ | ⟨l', ls⟩⟩
      · simp [lockFromPath, hs] at h
      · simp [lockFromPath, hs] at h
      · simp only [lockFromPath, hs] at h
        cases he : env.send (unlockRequest ⟨l.id, "", "", ""⟩).1 with
        | none => simp [he] at h
        | some err =>
          simp only [he, UnlockOutcome.exit.injEq] at h
          exact ⟨l, l', ls, err, rfl, he, h.1.symm, h.2.symm⟩

/-- A server holding one lock on `a.psd`, and one holding two, that accepts every request. -/
def psdLock : Lock := ⟨"1", "a.psd", "user", "user@localhost"⟩
def oneLock : LockEnv := ⟨fun _ => .ok [psdLock], fun _ => none⟩
def twoLocks : LockEnv := ⟨fun _ => .ok [psdLock, { psdLock with id := "2" }], fun _ => none⟩

theorem unlock_outcome_one_lock :
    unlockCommand oneLock ["a.psd"] = .nilDeref [errLockAmbiguous] :=
  (unlock_outcome oneLock "a.psd" []).2.1 psdLock rfl

/-- With two locks, the first is unlocked by the server and the command still panics. -/
example : unlockCommand twoLocks ["a.psd"] = .nilDeref [] := by decide

end GitLfs.Commands
