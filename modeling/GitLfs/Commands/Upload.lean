import GitLfs.Commands.Fetch

/-! # The upload context of `push`

The git scanner calls back once per pointer it finds, and the callback hands that pointer to
`uploadPointers`. `prepareUpload` skips an oid already uploaded or already seen in the call,
then keeps the pointer unless its path is locked by someone else while lock verification is
enabled. Each kept pointer becomes a transfer on the queue; in a dry run it is only printed.
-/

namespace GitLfs.Commands

open Tq (Oid)

/-- An error of the upload path, with whether it is a `CleanPointerError`. -/
structure UploadError where
  message : String
  cleanPointer : Bool
  deriving DecidableEq, Repr

/-- What the upload path reads from outside the context: the lock verifier's answers
(`LockedByThem`, `Enabled`), the media path `gitfilter.ObjectPath` gives an oid, and for
`ensureFile` whether `os.Stat` finds the media file and the errors of `os.Open` of the
working-tree file, of its `Stat`, and of `gitfilter.Clean`. -/
structure UploadEnv where
  lockedByThem : String → Bool
  enabled : Bool
  objectPath : Oid → Except String String
  statClean : String → Bool
  openFile : String → Option String
  statFile : String → Option String
  clean : String → Option UploadError

/-- `tq.Transfer`, as `q.Add` is given it. -/
structure Transfer where
  name : String
  path : String
  oid : Oid
  size : Int
  deriving DecidableEq, Repr

/-- The fields of `uploadContext` that the upload path reads or changes: what went to the
queue and the pointers printed in a dry run are recorded with them. -/
structure UploadContext where
  dryRun : Bool
  allowMissing : Bool
  uploadedOids : List Oid
  meter : Int
  scannerErr : Option String
  queued : List Transfer
  printed : List WrappedPointer

/-- `newUploadContext(dryRun)`, with `lfs.allowincompletepush` read as `allowMissing`. -/
def newUploadContext (dryRun allowMissing : Bool) : UploadContext :=
  ⟨dryRun, allowMissing, [], 0, none, [], []⟩

/-- `addScannerError`: a second error is appended to the first on a new line. -/
def UploadContext.addScannerError (c : UploadContext) (err : String) : UploadContext :=
  { c with
    scannerErr := match c.scannerErr with
      | some e => some (e ++ "\n" ++ err)
      | none => some err }

section

variable (env : UploadEnv)

/-- `ensureFile(smudgePath, cleanPath)`: nothing to do when the media file exists; otherwise
the working-tree file is cleaned again, and a missing one is tolerated when `allowMissing`. -/
def ensureFile (allowMissing : Bool) (smudgePath cleanPath : String) : Option UploadError :=
  if env.statClean cleanPath then none
  else
    match env.openFile smudgePath with
    | some err => if allowMissing then none else some ⟨err, false⟩
    | none =>
      match env.statFile smudgePath with
      | some err => some ⟨err, false⟩
      | none => env.clean smudgePath

/-- `uploadTransfer(p)`: a `CleanPointerError` of `ensureFile` is ignored. -/
def uploadTransfer (allowMissing : Bool) (p : WrappedPointer) : Except UploadError Transfer :=
  match env.objectPath p.oid with
  | .error err =>
    .error ⟨"Error uploading file " ++ p.name ++ " (" ++ p.oid ++ "): " ++ err, false⟩
  | .ok path =>
    let t : Transfer := ⟨p.name, path, p.oid, p.size⟩
    if p.name.length > 0 then
      match ensureFile env allowMissing p.name path with
      | some err => if err.cleanPointer then .ok t else .error err
      | none => .ok t
    else .ok t

/-- `canUpload`: false only for a path locked by someone else while verification is enabled. -/
def canUpload (p : WrappedPointer) : Bool :=
  if env.lockedByThem p.name then !env.enabled else true

/-- The locals of the loop of `prepareUpload`. -/
structure Prepared where
  uniqOids : List Oid
  uploadables : List WrappedPointer
  meter : Int

/-- One pointer of the loop of `prepareUpload`: the oid is recorded as seen before the lock
is checked. -/
def prepareStep (c : UploadContext) (s : Prepared) (p : WrappedPointer) : Prepared :=
  if p.oid ∈ s.uniqOids ∨ p.oid ∈ c.uploadedOids then s
  else if canUpload env p then ⟨s.uniqOids ++ [p.oid], s.uploadables ++ [p], s.meter + p.size⟩
  else { s with uniqOids := s.uniqOids ++ [p.oid] }

/-- `prepareUpload(unfiltered...)`: the meter's estimate, and the pointers to upload. -/
def prepareUpload (c : UploadContext) (unfiltered : List WrappedPointer) :
    UploadContext × List WrappedPointer :=
  let s := unfiltered.foldl (prepareStep env c) ⟨[], [], c.meter⟩
  ({ c with meter := s.meter }, s.uploadables)

/-- How `uploadPointers` ends the process: `ExitWithError`, or the nil transfer of an error
that is a `CleanPointerError` handed to `q.Add`. -/
inductive Halt
  | exit (err : UploadError)
  | nilTransfer
  deriving DecidableEq, Repr

/-- The loop of `uploadPointers` over the prepared pointers. -/
def addTransfers (c : UploadContext) : List WrappedPointer → Except Halt UploadContext
  | [] => .ok c
  | p :: ps =>
    match uploadTransfer env c.allowMissing p with
    | .error err => .error (if err.cleanPointer then .nilTransfer else .exit err)
    | .ok t =>
      addTransfers { c with queued := c.queued ++ [t], uploadedOids := c.uploadedOids ++ [p.oid] }
        ps

end

/-- The loop of `uploadPointers` in a dry run: `push <oid> => <name>` is printed for each
pointer whose oid was not uploaded yet. -/
def printPointers (c : UploadContext) : List WrappedPointer → UploadContext
  | [] => c
  | p :: ps =>
    if p.oid ∈ c.uploadedOids then printPointers c ps
    else
      printPointers { c with printed := c.printed ++ [p], uploadedOids := c.uploadedOids ++ [p.oid] }
        ps

/-- `uploadPointers(c, unfiltered...)`. -/
def uploadPointers (env : UploadEnv) (c : UploadContext) (unfiltered : List WrappedPointer) :
    Except Halt UploadContext :=
  if c.dryRun then .ok (printPointers c unfiltered)
  else
    let (c', pointers) := prepareUpload env c unfiltered
    addTransfers env c' pointers

/-- The callback of `buildGitScanner`, for a pointer or a scan error. -/
def scanCallback (env : UploadEnv) (c : UploadContext) :
    Except String WrappedPointer → Except Halt UploadContext
  | .error err => .ok (c.addScannerError err)
  | .ok p => uploadPointers env c [p]

/-- The scanner's callbacks one after the other, each with the lock verifier's answers of its
moment. -/
def scanCallbacks (c : UploadContext) :
    List (UploadEnv × Except String WrappedPointer) → Except Halt UploadContext
  | [] => .ok c
  | (env, e) :: events =>
    match scanCallback env c e with
    | .error h => .error h
    | .ok c' => scanCallbacks c' events

/-- What holds of the context between calls: each oid is marked uploaded once, the marked
oids are those queued (printed, in a dry run), and nothing goes to the other list. -/
structure Consistent (c : UploadContext) : Prop where
  nodup : c.uploadedOids.Nodup
  marked : c.uploadedOids = if c.dryRun then c.printed.map (·.oid) else c.queued.map (·.oid)
  other : if c.dryRun then c.queued = [] else c.printed = []

/-- What the loop of `prepareUpload` keeps of its locals: each kept oid once, seen, and not
uploaded before. -/
structure Prepared.Sound (c : UploadContext) (s : Prepared) : Prop where
  nodup : (s.uploadables.map (·.oid)).Nodup
  seen : ∀ p ∈ s.uploadables, p.oid ∈ s.uniqOids
  fresh : ∀ p ∈ s.uploadables, p.oid ∉ c.uploadedOids

/-- The scan errors among the callbacks, in order. -/
def scanErrors (events : List (UploadEnv × Except String WrappedPointer)) : List String :=
  events.filterMap fun e =>
    match e.2 with
    | .error err => some err
    | .ok _ => none

/-- Errors joined on new lines, or none. -/
def joinedErrors : List String → Option String
  | [] => none
  | errs => some ("\n".intercalate errs)

theorem consistent_new (dryRun allowMissing : Bool) :
    Consistent (newUploadContext dryRun allowMissing) :=
  ⟨List.nodup_nil, by cases dryRun <;> rfl, by cases dryRun <;> rfl⟩

section

variable {env : UploadEnv} {c c' : UploadContext}

theorem uploadTransfer_ok {allowMissing : Bool} {p : WrappedPointer} {t : Transfer}
    (h : uploadTransfer env allowMissing p = .ok t) : t.oid = p.oid := by
  unfold uploadTransfer at h
  split at h
  · cases h
  · split at h
    · split at h
      · split at h <;> cases h; rfl
      · cases h; rfl
    · cases h; rfl

theorem uploadTransfer_error {allowMissing : Bool} {p : WrappedPointer} {err : UploadError}
    (h : uploadTransfer env allowMissing p = .error err) : err.cleanPointer = false := by
  unfold uploadTransfer at h
  split at h
  · cases h; rfl
  · split at h
    · split at h
      · split at h
        · cases h
        · cases h; simp_all
      · cases h
    · cases h

theorem addTransfers_ok : ∀ {c c' : UploadContext} {ps : List WrappedPointer},
    addTransfers env c ps = .ok c' → ∃ ts : List Transfer, ts.map (·.oid) = ps.map (·.oid) ∧
      c' = { c with queued := c.queued ++ ts, uploadedOids := c.uploadedOids ++ ps.map (·.oid) }
  | c, c', [], h => ⟨[], rfl, by cases h; simp⟩
  | c, c', p :: ps, h => by
    simp only [addTransfers] at h
    split at h
    · cases h
    · rename_i t ht
      obtain ⟨ts, hts, rfl⟩ := addTransfers_ok h
      refine ⟨t :: ts, by simp [hts, uploadTransfer_ok ht], ?_⟩
      simp

theorem addTransfers_halt : ∀ {c : UploadContext} {ps : List WrappedPointer},
    addTransfers env c ps ≠ .error .nilTransfer
  | c, [] => nofun
  | c, p :: ps => by
    simp only [addTransfers]
    split
    · rename_i err herr
      simp [uploadTransfer_error herr]
    · exact addTransfers_halt

theorem printPointers_spec : ∀ (c : UploadContext) (ps : List WrappedPointer),
    c.uploadedOids.Nodup → ∃ new : List WrappedPointer,
      printPointers c ps =
        { c with printed := c.printed ++ new, uploadedOids := c.uploadedOids ++ new.map (·.oid) } ∧
      (c.uploadedOids ++ new.map (·.oid)).Nodup ∧
      ∀ o, o ∈ c.uploadedOids ++ new.map (·.oid) ↔ o ∈ c.uploadedOids ∨ ∃ p ∈ ps, p.oid = o
  | c, [], hn => ⟨[], by simp [printPointers], by simpa using hn, by simp⟩
  | c, p :: ps, hn => by
    by_cases hp : p.oid ∈ c.uploadedOids
    · obtain ⟨new, h₁, h₂, h₃⟩ := printPointers_spec c ps hn
      refine ⟨new, by simp only [printPointers, hp, if_true, h₁], h₂, fun o => ?_⟩
      rw [h₃, List.exists_mem_cons_iff]
      by_cases ho : p.oid = o
      · subst ho; simp [hp]
      · simp [ho]
    · let c₁ : UploadContext :=
        { c with printed := c.printed ++ [p], uploadedOids := c.uploadedOids ++ [p.oid] }
      have hn' : c₁.uploadedOids.Nodup :=
        List.nodup_append.mpr ⟨hn, List.nodup_singleton _, by simpa using hp⟩
      obtain ⟨new, h₁, h₂, h₃⟩ := printPointers_spec c₁ ps hn'
      refine ⟨p :: new, ?_, by simpa [c₁] using h₂, fun o => ?_⟩
      · simp only [printPointers, hp, if_false]
        rw [h₁]
        simp [c₁]
      · have e : c.uploadedOids ++ (p :: new).map (·.oid) = c₁.uploadedOids ++ new.map (·.oid) := by
          simp [c₁]
        rw [e, h₃ o, List.exists_mem_cons_iff]
        simp only [c₁, List.mem_append, List.mem_singleton, or_assoc]
        rw [@eq_comm _ o]

theorem prepareStep_uploadables (s : Prepared) (p : WrappedPointer) (o : Oid) :
    o ∈ (prepareStep env c s p).uploadables.map (·.oid) ↔ o ∈ s.uploadables.map (·.oid) ∨
      (p.oid = o ∧ p.oid ∉ s.uniqOids ∧ p.oid ∉ c.uploadedOids ∧ canUpload env p = true) := by
  unfold prepareStep
  split_ifs with h₁ h₂
  · -- skipped: the oid was seen or uploaded
    refine ⟨Or.inl, ?_⟩
    rintro (h | ⟨-, hu, hc, -⟩)
    · exact h
    · exact absurd h₁ (not_or.mpr ⟨hu, hc⟩)
  · rw [not_or] at h₁
    simp [h₁.1, h₁.2, h₂, eq_comm]
  · refine ⟨Or.inl, ?_⟩
    rintro (h | ⟨-, -, -, hcan⟩)
    · exact h
    · exact absurd hcan h₂

theorem prepareStep_uniqOids (s : Prepared) (p : WrappedPointer) (o : Oid) :
    o ∈ (prepareStep env c s p).uniqOids ↔
      o ∈ s.uniqOids ∨ (p.oid = o ∧ p.oid ∉ c.uploadedOids) := by
  unfold prepareStep
  split_ifs with h₁ h₂
  · refine ⟨Or.inl, ?_⟩
    rintro (h | ⟨rfl, h⟩)
    · exact h
    · exact h₁.resolve_right h
  all_goals
    rw [not_or] at h₁
    simp [h₁.2, eq_comm]

theorem Prepared.Sound.step {s : Prepared} (h : s.Sound c) (p : WrappedPointer) :
    (prepareStep env c s p).Sound c := by
  unfold prepareStep
  split_ifs with h₁ h₂
  · exact h
  · simp only [not_or] at h₁
    refine ⟨?_, ?_, ?_⟩
    · simp only [List.map_append, List.map_cons, List.map_nil]
      refine List.nodup_append.mpr ⟨h.nodup, List.nodup_singleton _, ?_⟩
      simp only [List.disjoint_singleton, List.mem_map, not_exists, not_and]
      exact fun q hq he => h₁.1 (he ▸ h.seen q hq)
    · simp only [List.mem_append, List.mem_singleton]
      rintro q (hq | rfl)
      · exact Or.inl (h.seen q hq)
      · exact Or.inr rfl
    · simp only [List.mem_append, List.mem_singleton]
      rintro q (hq | rfl)
      · exact h.fresh q hq
      · exact h₁.2
  · exact ⟨h.nodup, fun q hq => List.mem_append_left _ (h.seen q hq), h.fresh⟩

theorem foldl_prepareStep : ∀ (ps : List WrappedPointer) (s : Prepared), s.Sound c →
    (ps.foldl (prepareStep env c) s).Sound c ∧
      ∀ o, o ∈ (ps.foldl (prepareStep env c) s).uploadables.map (·.oid) ↔
        o ∈ s.uploadables.map (·.oid) ∨ (o ∉ s.uniqOids ∧ o ∉ c.uploadedOids ∧
          ∃ p, ps.find? (·.oid == o) = some p ∧ canUpload env p = true)
  | [], s, h => ⟨h, by simp⟩
  | p :: ps, s, h => by
    obtain ⟨h₁, h₂⟩ := foldl_prepareStep ps _ (h.step p)
    refine ⟨h₁, fun o => ?_⟩
    rw [List.foldl_cons, h₂, prepareStep_uploadables, prepareStep_uniqOids]
    by_cases ho : p.oid = o
    · -- `p` is the first pointer of its oid
      rw [List.find?_cons_of_pos (p := fun x : WrappedPointer => x.oid == o) _ (beq_iff_eq.mpr ho)]
      subst ho
      simp only [Option.some.injEq, exists_eq_left', true_and]
      refine ⟨?_, Or.inl⟩
      rintro (h | ⟨hn, hc, -⟩)
      · exact h
      · exact absurd (Or.inr hc) hn
    · rw [List.find?_cons_of_neg (p := fun x : WrappedPointer => x.oid == o) _ (by simpa using ho)]
      simp only [ho, false_and, or_false]

theorem prepareUpload_uploadables (env : UploadEnv) (c : UploadContext)
    (ps : List WrappedPointer) :
    (prepareUpload env c ps).1 = { c with meter := (prepareUpload env c ps).1.meter } ∧
      ((prepareUpload env c ps).2.map (·.oid)).Nodup ∧
      (∀ p ∈ (prepareUpload env c ps).2, p.oid ∉ c.uploadedOids) ∧
      ∀ o, o ∈ (prepareUpload env c ps).2.map (·.oid) ↔ o ∉ c.uploadedOids ∧
        ∃ p, ps.find? (·.oid == o) = some p ∧ canUpload env p = true := by
  have h₀ : (⟨[], [], c.meter⟩ : Prepared).Sound c := ⟨List.nodup_nil, nofun, nofun⟩
  obtain ⟨h₁, h₂⟩ := @foldl_prepareStep env c ps _ h₀
  refine ⟨rfl, h₁.nodup, h₁.fresh, fun o => ?_⟩
  simpa using h₂ o

theorem exists_find?_iff {ps : List WrappedPointer} {o : Oid} :
    (∃ p, ps.find? (·.oid == o) = some p) ↔ ∃ p ∈ ps, p.oid = o := by
  rw [← Option.isSome_iff_exists, List.find?_isSome]
  simp

theorem uploadPointers_step {ps : List WrappedPointer} (hc : Consistent c)
    (h : uploadPointers env c ps = .ok c') :
    Consistent c' ∧ c'.dryRun = c.dryRun ∧ c'.scannerErr = c.scannerErr ∧
      ∀ o, o ∈ c'.uploadedOids ↔ o ∈ c.uploadedOids ∨
        ∃ p, ps.find? (·.oid == o) = some p ∧ (c.dryRun || canUpload env p) = true := by
  unfold uploadPointers at h
  cases hd : c.dryRun
  · simp only [hd, Bool.false_eq_true, if_false] at h
    obtain ⟨hc₁, hn, hfresh, hmem⟩ := prepareUpload_uploadables env c ps
    obtain ⟨ts, hts, rfl⟩ := addTransfers_ok h
    have hm := hc.marked
    have ho := hc.other
    simp only [hd, Bool.false_eq_true, if_false] at hm ho
    rw [hc₁]
    refine ⟨⟨?_, ?_, ?_⟩, hd, rfl, fun o => ?_⟩
    · exact List.nodup_append.mpr ⟨hc.nodup, hn, fun o h₁ h₂ => by
        obtain ⟨p, hp, rfl⟩ := List.mem_map.mp h₂
        exact hfresh p hp h₁⟩
    · simp [hd, hm, hts]
    · simp [hd, ho]
    · simp only [List.mem_append, hmem, Bool.false_or]
      by_cases ho : o ∈ c.uploadedOids <;> simp [ho]
  · simp only [hd, if_true, Except.ok.injEq] at h
    subst h
    obtain ⟨new, heq, hn, hmem⟩ := printPointers_spec c ps hc.nodup
    have hm := hc.marked
    have ho := hc.other
    simp only [hd, if_true] at hm ho
    rw [heq]
    refine ⟨⟨hn, by simp [hd, hm], by simp [hd, ho]⟩, hd, rfl, fun o => ?_⟩
    simp only [hmem, Bool.true_or, and_true, exists_find?_iff]

theorem exists_find?_singleton {p : WrappedPointer} {o : Oid} {P : WrappedPointer → Prop} :
    (∃ q, [p].find? (·.oid == o) = some q ∧ P q) ↔ p.oid = o ∧ P p := by
  by_cases ho : p.oid = o
  · rw [List.find?_cons_of_pos (p := fun x : WrappedPointer => x.oid == o) _ (beq_iff_eq.mpr ho)]
    simp [ho]
  · rw [List.find?_cons_of_neg (p := fun x : WrappedPointer => x.oid == o) _ (by simpa using ho)]
    simp [ho]

theorem exists_event_ok {env : UploadEnv} {p : WrappedPointer}
    {events : List (UploadEnv × Except String WrappedPointer)}
    {Q : UploadEnv → WrappedPointer → Prop} :
    (∃ env' p', (env', .ok p') ∈ (env, .ok p) :: events ∧ Q env' p') ↔
      Q env p ∨ ∃ env' p', (env', .ok p') ∈ events ∧ Q env' p' := by
  simp only [List.mem_cons, Prod.mk.injEq, Except.ok.injEq]
  constructor
  · rintro ⟨e, q, ⟨rfl, rfl⟩ | h, hq⟩
    · exact Or.inl hq
    · exact Or.inr ⟨e, q, h, hq⟩
  · rintro (h | ⟨e, q, h, hq⟩)
    · exact ⟨env, p, Or.inl ⟨rfl, rfl⟩, h⟩
    · exact ⟨e, q, Or.inr h, hq⟩

theorem exists_event_error {env : UploadEnv} {err : String}
    {events : List (UploadEnv × Except String WrappedPointer)}
    {Q : UploadEnv → WrappedPointer → Prop} :
    (∃ env' p', (env', .ok p') ∈ (env, .error err) :: events ∧ Q env' p') ↔
      ∃ env' p', (env', .ok p') ∈ events ∧ Q env' p' := by
  simp

theorem exists_event_map {env : UploadEnv} {ps : List WrappedPointer}
    {Q : UploadEnv → WrappedPointer → Prop} :
    (∃ env' p', (env', .ok p') ∈ ps.map (fun p => (env, (.ok p : Except String WrappedPointer))) ∧
      Q env' p') ↔ ∃ p ∈ ps, Q env p := by
  simp only [List.mem_map, Prod.mk.injEq, Except.ok.injEq]
  constructor
  · rintro ⟨e, q, ⟨p, hp, rfl, rfl⟩, hq⟩
    exact ⟨p, hp, hq⟩
  · rintro ⟨p, hp, hq⟩
    exact ⟨env, p, ⟨p, hp, rfl, rfl⟩, hq⟩

theorem joinedErrors_addScannerError (err : String) (rest : List String) :
    joinedErrors ((c.addScannerError err).scannerErr.toList ++ rest) =
      joinedErrors (c.scannerErr.toList ++ err :: rest) := by
  unfold UploadContext.addScannerError
  cases c.scannerErr <;> rfl

theorem joinedErrors_toList (e : Option String) : joinedErrors (e.toList ++ []) = e := by
  cases e <;> rfl

/-- A run of the scanner's callbacks keeps the context consistent. It marks uploaded the
oids of which some reported pointer may be uploaded at its call (every oid reported, in a
dry run), and keeps every scan error, in order. -/
theorem scanCallbacks_spec : ∀ {c c' : UploadContext}
    {events : List (UploadEnv × Except String WrappedPointer)}, Consistent c →
    scanCallbacks c events = .ok c' →
      Consistent c' ∧ c'.dryRun = c.dryRun ∧
      (∀ o, o ∈ c'.uploadedOids ↔ o ∈ c.uploadedOids ∨
        ∃ env p, (env, .ok p) ∈ events ∧ p.oid = o ∧ (c.dryRun || canUpload env p) = true) ∧
      c'.scannerErr = joinedErrors (c.scannerErr.toList ++ scanErrors events)
  | c, c', [], hc, h => by
    cases h
    exact ⟨hc, rfl, by simp, (joinedErrors_toList _).symm⟩
  | c, c', (env, e) :: events, hc, h => by
    simp only [scanCallbacks] at h
    split at h
    · cases h
    · rename_i c₁ h₁
      cases e with
      | error err =>
        cases h₁
        obtain ⟨h₂, h₃, h₄, h₅⟩ := scanCallbacks_spec (c := c.addScannerError err) ⟨hc.1, hc.2, hc.3⟩ h
        refine ⟨h₂, h₃, fun o => by rw [h₄ o, exists_event_error]; rfl, ?_⟩
        rw [h₅, joinedErrors_addScannerError]
        rfl
      | ok p =>
        obtain ⟨hc₁, hd₁, he₁, hm₁⟩ := uploadPointers_step hc h₁
        obtain ⟨h₂, h₃, h₄, h₅⟩ := scanCallbacks_spec hc₁ h
        refine ⟨h₂, h₃.trans hd₁, fun o => ?_, ?_⟩
        · rw [h₄ o, hm₁ o, hd₁, exists_find?_singleton, exists_event_ok, or_assoc]
        · rw [h₅, he₁]
          rfl

end

/-- Over every run of the scanner's callbacks on a new context, whatever the lock verifier
answers at each call: each oid is marked uploaded once, and the marked oids are those queued
(printed, in a dry run), with nothing on the other list; they are exactly the oids of which
some reported pointer may be uploaded at its call (every reported oid, in a dry run); and
every scan error is kept, in order, one per line. -/
theorem scan_uploads {dryRun allowMissing : Bool}
    {events : List (UploadEnv × Except String WrappedPointer)} {c : UploadContext}
    (h : scanCallbacks (newUploadContext dryRun allowMissing) events = .ok c) :
    Consistent c ∧ c.dryRun = dryRun ∧
      (∀ o, o ∈ c.uploadedOids ↔
        ∃ env p, (env, .ok p) ∈ events ∧ p.oid = o ∧ (dryRun || canUpload env p) = true) ∧
      c.scannerErr = joinedErrors (scanErrors events) := by
  obtain ⟨h₁, h₂, h₃, h₄⟩ := scanCallbacks_spec (consistent_new dryRun allowMissing) h
  exact ⟨h₁, h₂, fun o => by simpa [newUploadContext] using h₃ o, h₄⟩

/-- A remote where `a.bin` is locked by someone else and lock verification is enabled, and
where every object is stored; `a.bin` and `b.bin` are two paths to the same content. -/
def lockedEnv : UploadEnv :=
  ⟨(· == "a.bin"), true, fun oid => .ok (".git/lfs/objects/" ++ oid), fun _ => true,
    fun _ => none, fun _ => none, fun _ => none⟩

def aBin : WrappedPointer := ⟨"a.bin", "4d7a", 5⟩
def bBin : WrappedPointer := ⟨"b.bin", "4d7a", 5⟩

/-- The scanner reports `a.bin`, fails once, then reports `b.bin`. -/
def lockedScan : List (UploadEnv × Except String WrappedPointer) :=
  [(lockedEnv, .ok aBin), (lockedEnv, .error "bad object"), (lockedEnv, .ok bBin)]

/-- What that run leaves: `b.bin` queued, the scan error kept. -/
def lockedScanned : UploadContext :=
  ⟨false, true, ["4d7a"], 5, some "bad object", [⟨"b.bin", ".git/lfs/objects/4d7a", "4d7a", 5⟩], []⟩

theorem scan_uploads_locked :
    scanCallbacks (newUploadContext false true) lockedScan = .ok lockedScanned ∧
    (Consistent lockedScanned ∧ lockedScanned.dryRun = false ∧
      (∀ o, o ∈ lockedScanned.uploadedOids ↔ ∃ env p,
        (env, .ok p) ∈ lockedScan ∧ p.oid = o ∧ (false || canUpload env p) = true) ∧
      lockedScanned.scannerErr = joinedErrors (scanErrors lockedScan)) :=
  have h : scanCallbacks (newUploadContext false true) lockedScan = .ok lockedScanned := rfl
  ⟨h, scan_uploads h⟩

/-- One call of `uploadPointers` with several pointers decides an oid by its first pointer in
the list, where the scanner's calls, one pointer each, upload an oid if any of its pointers
may be uploaded: the batch drops an oid whose first path is locked by someone else even when
another path to it is free. -/
theorem batch_first_pointer {env : UploadEnv} {c c₁ c₂ : UploadContext}
    {ps : List WrappedPointer} (hc : Consistent c) (hd : c.dryRun = false)
    (h₁ : uploadPointers env c ps = .ok c₁)
    (h₂ : scanCallbacks c (ps.map fun p => (env, .ok p)) = .ok c₂) :
    (∀ o, o ∈ c₁.uploadedOids ↔ o ∈ c.uploadedOids ∨
      ∃ p, ps.find? (·.oid == o) = some p ∧ canUpload env p = true) ∧
    (∀ o, o ∈ c₂.uploadedOids ↔ o ∈ c.uploadedOids ∨
      ∃ p ∈ ps, p.oid = o ∧ canUpload env p = true) := by
  obtain ⟨-, -, -, hm₁⟩ := uploadPointers_step hc h₁
  obtain ⟨-, -, hm₂, -⟩ := scanCallbacks_spec hc h₂
  refine ⟨fun o => by simpa [hd] using hm₁ o, fun o => ?_⟩
  rw [hm₂ o, hd, exists_event_map]
  simp only [Bool.false_or]

/-- `a.bin` then `b.bin`, in one call and in two. -/
def batchedLocked : UploadContext := ⟨false, true, [], 0, none, [], []⟩
def singlyLocked : UploadContext :=
  ⟨false, true, ["4d7a"], 5, none, [⟨"b.bin", ".git/lfs/objects/4d7a", "4d7a", 5⟩], []⟩

theorem batch_first_pointer_locked :
    (Consistent (newUploadContext false true) ∧ (newUploadContext false true).dryRun = false ∧
      uploadPointers lockedEnv (newUploadContext false true) [aBin, bBin] = .ok batchedLocked ∧
      scanCallbacks (newUploadContext false true) ([aBin, bBin].map fun p => (lockedEnv, .ok p)) =
        .ok singlyLocked) ∧
    (∀ o, o ∈ batchedLocked.uploadedOids ↔ o ∈ (newUploadContext false true).uploadedOids ∨
      ∃ p, [aBin, bBin].find? (·.oid == o) = some p ∧ canUpload lockedEnv p = true) ∧
    (∀ o, o ∈ singlyLocked.uploadedOids ↔ o ∈ (newUploadContext false true).uploadedOids ∨
      ∃ p ∈ [aBin, bBin], p.oid = o ∧ canUpload lockedEnv p = true) :=
  have h₁ : uploadPointers lockedEnv (newUploadContext false true) [aBin, bBin] =
    .ok batchedLocked := rfl
  have h₂ : scanCallbacks (newUploadContext false true)
    ([aBin, bBin].map fun p => (lockedEnv, .ok p)) = .ok singlyLocked := rfl
  ⟨⟨consistent_new false true, rfl, h₁, h₂⟩,
    batch_first_pointer (consistent_new false true) rfl h₁ h₂⟩

example : "4d7a" ∉ batchedLocked.uploadedOids ∧ "4d7a" ∈ singlyLocked.uploadedOids := by
  decide

end GitLfs.Commands
