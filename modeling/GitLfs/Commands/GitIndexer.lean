import Mathlib.Data.List.Basic

/-! # Updating the index after a checkout: `gitIndexer`

`pull` gives each path it checks out to `gitIndexer.Add`, which starts
`git update-index -q --refresh --stdin` on the first path and writes each path to its standard
input; `Close` closes the input and waits for git. Each method holds the indexer's mutex, so a
run is a sequence of whole calls. When git cannot be started, the next `Add` dereferences the
nil input and the process panics.
-/

namespace GitLfs.Commands

/-- `i.cmd`: nil, made by `exec.Command` but not started because `StdinPipe` or `Start`
failed, started, or waited for. -/
inductive IndexerCmd
  | none
  | notStarted
  | running
  | waited
  deriving DecidableEq, Repr

/-- A `gitIndexer`: its command, its input (`none` while nil, else whether it was closed), and
what was written to git's standard input, a path and a newline per write. -/
structure GitIndexer where
  cmd : IndexerCmd
  input : Option Bool
  written : List String
  deriving DecidableEq, Repr

/-- The zero `gitIndexer` that `newSingleCheckout` makes. -/
def GitIndexer.init : GitIndexer := ⟨.none, none, []⟩

/-- How `Add` ends: with no error, with the error of `StdinPipe` or `Start`, or by a nil
pointer dereference on `i.input.Write`. -/
inductive AddResult
  | ok
  | error (err : String)
  | nilDeref
  deriving DecidableEq, Repr

namespace GitIndexer

/-- `Add(path)`, where `startErr` is the error of `StdinPipe` or `Start`, if any. A write to a
closed pipe fails, and its error is dropped. -/
def add (startErr : Option String) (i : GitIndexer) (path : String) : GitIndexer × AddResult :=
  let (i, err) : GitIndexer × Option String :=
    if i.cmd = .none then
      match startErr with
      | some err => ({ i with cmd := .notStarted }, some err)
      | none => ({ i with cmd := .running, input := some false }, none)
    else (i, none)
  match err with
  | some err => (i, .error err)
  | none =>
    match i.input with
    | none => (i, .nilDeref)
    | some closed =>
      ({ i with written := if closed then i.written else i.written ++ [path ++ "\n"] }, .ok)

/-- `Close()`, where `waitErr` is the exit error of git, if any; `exec.Cmd.Wait` refuses a
command that was never started or already waited for. -/
def close (waitErr : Option String) (i : GitIndexer) : GitIndexer × Option String :=
  let i := if i.input.isSome then { i with input := some true } else i
  match i.cmd with
  | .none => (i, none)
  | .notStarted => (i, some "exec: not started")
  | .running => ({ i with cmd := .waited }, waitErr)
  | .waited => (i, some "exec: Wait was already called")

/-- `Add` for each path in turn, until one dereferences nil and the process panics: the
indexer after them and what each returned. -/
def addAll (startErr : Option String) : GitIndexer → List String → GitIndexer × List AddResult
  | i, [] => (i, [])
  | i, path :: paths =>
    match i.add startErr path with
    | (i, .nilDeref) => (i, [.nilDeref])
    | (i, r) =>
      let (i, rs) := addAll startErr i paths
      (i, r :: rs)

theorem addAll_running (startErr : Option String) :
    ∀ (paths written : List String),
      addAll startErr ⟨.running, some false, written⟩ paths =
        (⟨.running, some false, written ++ paths.map (· ++ "\n")⟩, paths.map fun _ => .ok)
  | [], written => by simp [addAll]
  | path :: paths, written => by
    simp [addAll, add, addAll_running startErr paths]

theorem addAll_notStarted (startErr : Option String) (path : String) (paths : List String) :
    addAll startErr ⟨.notStarted, none, []⟩ (path :: paths) = (⟨.notStarted, none, []⟩, [.nilDeref]) := by
  simp [addAll, add]

end GitIndexer

open GitIndexer

/-- A run of `pull`'s indexer: the paths added, in the order the goroutines add them, then
`Close`. Git is started only if a path was added; if it started, it was given every path in
order and `Close` returns its exit error. If it could not start, the first `Add` returns the
error, a second one dereferences nil and ends the process, and with a single path `Close`
reports that the command was never started. -/
theorem gitIndexer_run (startErr waitErr : Option String) (paths : List String) :
    match GitIndexer.addAll startErr GitIndexer.init paths with
    | (i, results) =>
      match GitIndexer.close waitErr i with
      | (i', err) =>
        (i'.cmd = .none ↔ paths = []) ∧
          i'.written = (if startErr.isNone then paths.map (· ++ "\n") else []) ∧
          results = (match startErr, paths with
            | some err, [_] => [.error err]
            | some err, _ :: _ :: _ => [.error err, .nilDeref]
            | _, _ => paths.map fun _ => .ok) ∧
          (.nilDeref ∉ results → err = (if paths = [] then none
            else if startErr.isNone then waitErr else some "exec: not started")) := by
  cases paths with
  | nil => simp [addAll, close, init]
  | cons path rest =>
    cases startErr with
    | none => simp [addAll, add, init, addAll_running, close]
    | some err => cases rest <;> simp [addAll, add, init, addAll_notStarted, close]

end GitLfs.Commands
