import Mathlib.Data.List.Dedup
import GitLfs.Lfs.Smudge

/-! # `git lfs fsck`

`doFsck` collects the oids of the pointers of the current commit and of the index in a map,
and examines each stored object in the map's order. A missing object, or one `os.Open` cannot
open, makes the result false; an object whose bytes do not hash to its oid makes it false and,
unless it is a dry run, is moved to `lfs/bad/<oid>`. Any other error ends the command.
-/

namespace GitLfs.Commands

open GitLfs.Lfs

/-- What `doFsck` reads from outside: the oids of the pointers `lfs.ScanRefs` and
`lfs.ScanIndex` report (or the first error of `git.CurrentRef` and the two scans), and the
failures of the system calls: `os.Open` of a stored file with an `*os.PathError` (such as a
denied permission), `io.Copy` of it into the hash, `os.MkdirAll` of the `bad` directory and
`os.Rename` of a corrupt file. -/
structure FsckEnv where
  index : Except String (List String)
  unopenable : Path → Bool
  copy : Path → Option String
  mkdir : Option String
  rename : Path → Option String

/-- No system call fails. -/
def FsckEnv.ok (index : List String) : FsckEnv :=
  ⟨.ok index, fun _ => false, fun _ => none, none, fun _ => none⟩

section

variable (env : FsckEnv) (sha : List UInt8 → String) (mediaPath : String → Path)
  (badDir : String) (dryRun : Bool)

/-- Whether the object `oid` is stored, can be opened, and its bytes do not hash to it. -/
def corrupt (fs : Fs) (oid : String) : Bool :=
  match fs (mediaPath oid) with
  | some f => !env.unopenable (mediaPath oid) && sha f.content != oid
  | none => false

/-- Whether the object `oid` is stored, can be opened, and its bytes hash to it. -/
def stored (fs : Fs) (oid : String) : Bool :=
  match fs (mediaPath oid) with
  | some f => !env.unopenable (mediaPath oid) && sha f.content == oid
  | none => false

/-- One turn of the loop of `doFsck`, "Examining" `oid`: the store afterwards, and whether
the object was found good, or the error that ends `doFsck`. -/
def examine (oid : String) (fs : Fs) : Fs × Except String Bool :=
  let path := mediaPath oid
  match fs path with
  | none => (fs, .ok false)
  | some f =>
    if env.unopenable path then (fs, .ok false)
    else match env.copy path with
    | some err => (fs, .error err)
    | none =>
      if sha f.content = oid then (fs, .ok true)
      else if dryRun then (fs, .ok false)
      else match env.mkdir with
        | some err => (fs, .error err)
        | none =>
          match env.rename path with
          | some err => (fs, .error err)
          | none => (fs.rename path ⟨badDir, oid⟩, .ok false)

/-- The loop of `doFsck` over the oids in the order the map gives them, with `ok` so far. -/
def fsckLoop : List String → Fs → Bool → Fs × Except String Bool
  | [], fs, ok => (fs, .ok ok)
  | oid :: rest, fs, ok =>
    match examine env sha mediaPath badDir dryRun oid fs with
    | (fs', .error err) => (fs', .error err)
    | (fs', .ok good) => fsckLoop rest fs' (ok && good)

/-- `doFsck()`. The map from oid to name is ranged over in an order Go leaves unspecified:
`iterate` gives it for the list of oids scanned. -/
def doFsck (iterate : List String → List String) (fs : Fs) : Fs × Except String Bool :=
  match env.index with
  | .error err => (fs, .error err)
  | .ok oids => fsckLoop env sha mediaPath badDir dryRun (iterate oids) fs true

/-- The store after a fsck that moved every corrupt object of `oids`: a path is owned by the
oid that is its base name, its media path is emptied and its `bad` path receives its bytes. -/
def repaired (oids : List String) (fs : Fs) : Fs := fun p =>
  if p.base ∈ oids ∧ corrupt env sha mediaPath fs p.base = true then
    if p.dir = badDir then fs (mediaPath p.base)
    else if p = mediaPath p.base then none
    else fs p
  else fs p

end

/-- Go's `range` over a map: each key once, in some order. -/
def MapOrder (iterate : List String → List String) : Prop :=
  ∀ l, (iterate l).Nodup ∧ ∀ o, o ∈ iterate l ↔ o ∈ l

/-- Where the store keeps objects: a media path is named by its oid, and lies outside the
`bad` directory. -/
structure Layout (mediaPath : String → Path) (badDir : String) : Prop where
  base : ∀ oid, (mediaPath oid).base = oid
  apart : ∀ oid, (mediaPath oid).dir ≠ badDir

section

variable {env : FsckEnv} {sha : List UInt8 → String} {mediaPath : String → Path}
  {badDir : String} {dryRun : Bool} {fs fs' : Fs} {oid : String}

theorem examine_ok {good : Bool}
    (h : examine env sha mediaPath badDir dryRun oid fs = (fs', .ok good)) :
    good = stored env sha mediaPath fs oid ∧
      fs' = if corrupt env sha mediaPath fs oid && !dryRun then
        fs.rename (mediaPath oid) ⟨badDir, oid⟩ else fs := by
  unfold examine at h
  cases hf : fs (mediaPath oid) with
  | none => simp_all [stored, corrupt]
  | some f =>
    simp only [hf] at h
    cases hu : env.unopenable (mediaPath oid)
    · simp only [hu, Bool.false_eq_true, ↓reduceIte] at h
      cases hc : env.copy (mediaPath oid) with
      | some _ => simp [hc] at h
      | none =>
        simp only [hc] at h
        by_cases hs : sha f.content = oid
        · simp_all [stored, corrupt]
        · cases dryRun
          · cases hm : env.mkdir <;> cases hr : env.rename (mediaPath oid) <;>
              simp_all [stored, corrupt]
          · simp_all [stored, corrupt]
    · simp_all [stored, corrupt]

theorem examine_of_ok {index : List String} :
    ∃ fs' good, examine (FsckEnv.ok index) sha mediaPath badDir dryRun oid fs = (fs', .ok good) := by
  simp only [examine, FsckEnv.ok]
  repeat' split
  all_goals exact ⟨_, _, rfl⟩

theorem repaired_congr {l l' : List String} (h : ∀ o, o ∈ l ↔ o ∈ l') :
    repaired env sha mediaPath badDir l fs = repaired env sha mediaPath badDir l' fs := by
  funext p
  simp only [repaired, h]

theorem fsckLoop_of_ok {index : List String} : ∀ {oids : List String} {fs : Fs} {ok : Bool},
    ∃ fs' b, fsckLoop (FsckEnv.ok index) sha mediaPath badDir dryRun oids fs ok = (fs', .ok b)
  | [], fs, ok => ⟨fs, ok, rfl⟩
  | o :: rest, fs, ok => by
    obtain ⟨fs₁, good, h⟩ : ∃ fs₁ good,
        examine (FsckEnv.ok index) sha mediaPath badDir dryRun o fs = (fs₁, .ok good) :=
      examine_of_ok
    simp only [fsckLoop, h]
    exact fsckLoop_of_ok

variable (hl : Layout mediaPath badDir)
include hl

theorem rename_other {o : String} {p : Path} (hp : p.base ≠ o) :
    fs.rename (mediaPath o) ⟨badDir, o⟩ p = fs p :=
  Fs.rename_of_ne (fun h => hp (h ▸ rfl)) (fun h => hp (h ▸ hl.base o))

theorem corrupt_rename {o o' : String} (hne : o' ≠ o) :
    corrupt env sha mediaPath (fs.rename (mediaPath o) ⟨badDir, o⟩) o' = corrupt env sha mediaPath fs o' ∧
      stored env sha mediaPath (fs.rename (mediaPath o) ⟨badDir, o⟩) o' = stored env sha mediaPath fs o' := by
  have : fs.rename (mediaPath o) ⟨badDir, o⟩ (mediaPath o') = fs (mediaPath o') :=
    rename_other hl (by rw [hl.base]; exact hne)
  simp [corrupt, stored, this]

theorem repaired_cons {o : String} {rest : List String} (ho : o ∉ rest) :
    repaired env sha mediaPath badDir rest
        (if corrupt env sha mediaPath fs o then fs.rename (mediaPath o) ⟨badDir, o⟩ else fs) =
      repaired env sha mediaPath badDir (o :: rest) fs := by
  funext ⟨dir, base⟩
  by_cases hpo : base = o
  · -- the path is `o`'s: the rest does not own it
    subst hpo
    by_cases hc : corrupt env sha mediaPath fs base = true
    · have hd := hl.apart base
      by_cases hm : (⟨dir, base⟩ : Path) = mediaPath base
      · have hne : mediaPath base ≠ ⟨badDir, base⟩ := fun h => hd (h ▸ rfl)
        rw [hm]
        simp [repaired, hl.base, ho, hc, hd, Fs.rename_src hne]
      · simp [repaired, ho, hc, hm, Fs.rename]
    · simp [repaired, ho, hc]
  · -- another oid's path: the turn on `o` did not touch it
    have hc : corrupt env sha mediaPath
        (if corrupt env sha mediaPath fs o then fs.rename (mediaPath o) ⟨badDir, o⟩ else fs) base =
        corrupt env sha mediaPath fs base := by
      split
      · exact (corrupt_rename hl hpo).1
      · rfl
    have hm : (if corrupt env sha mediaPath fs o then fs.rename (mediaPath o) ⟨badDir, o⟩ else fs)
        (mediaPath base) = fs (mediaPath base) := by
      split
      · exact rename_other hl (by rw [hl.base]; exact hpo)
      · rfl
    have hq : (if corrupt env sha mediaPath fs o then fs.rename (mediaPath o) ⟨badDir, o⟩ else fs)
        ⟨dir, base⟩ = fs ⟨dir, base⟩ := by
      split
      · exact rename_other hl hpo
      · rfl
    simp only [repaired, hc, hm, hq, List.mem_cons, hpo, false_or]

theorem fsckLoop_ok : ∀ {oids : List String} {fs fs' : Fs} {ok b : Bool}, oids.Nodup →
    fsckLoop env sha mediaPath badDir dryRun oids fs ok = (fs', .ok b) →
      fs' = (if dryRun then fs else repaired env sha mediaPath badDir oids fs) ∧
        (b = true ↔ ok = true ∧ ∀ o ∈ oids, stored env sha mediaPath fs o = true)
  | [], fs, fs', ok, b, _, h => by
    simp only [fsckLoop, Prod.mk.injEq, Except.ok.injEq] at h
    obtain ⟨rfl, rfl⟩ := h
    refine ⟨?_, by simp⟩
    split
    · rfl
    · funext p; simp [repaired]
  | o :: rest, fs, fs', ok, b, hn, h => by
    obtain ⟨ho, hn⟩ := List.nodup_cons.mp hn
    simp only [fsckLoop] at h
    rcases he : examine env sha mediaPath badDir dryRun o fs with ⟨fs₁, err | good⟩
    · simp [he] at h
    · simp only [he] at h
      obtain ⟨hg, rfl⟩ := examine_ok he
      obtain ⟨h₁, h₂⟩ := fsckLoop_ok hn h
      -- the turn on `o` changes the verdict of no other oid
      have hst : ∀ o' ∈ rest, stored env sha mediaPath
          (if corrupt env sha mediaPath fs o && !dryRun then fs.rename (mediaPath o) ⟨badDir, o⟩
            else fs) o' = stored env sha mediaPath fs o' := fun o' ho' => by
        split
        · exact (corrupt_rename hl (ne_of_mem_of_not_mem ho' ho)).2
        · rfl
      refine ⟨?_, ?_⟩
      · rw [h₁]
        cases dryRun
        · simpa using repaired_cons hl ho
        · simp
      · rw [h₂, hg, forall₂_congr fun o' ho' => by rw [hst o' ho']]
        simp only [Bool.and_eq_true, List.mem_cons, forall_eq_or_imp, and_assoc]

theorem doFsck_ok {iterate : List String → List String} {oids : List String} {b : Bool}
    (ho : MapOrder iterate) (he : env.index = .ok oids)
    (h : doFsck env sha mediaPath badDir dryRun iterate fs = (fs', .ok b)) :
    fs' = (if dryRun then fs else repaired env sha mediaPath badDir oids fs) ∧
      (b = true ↔ ∀ o ∈ oids, stored env sha mediaPath fs o = true) := by
  simp only [doFsck, he] at h
  obtain ⟨h₁, h₂⟩ := fsckLoop_ok hl (ho oids).1 h
  rw [repaired_congr (ho oids).2] at h₁
  simp only [h₁, h₂, true_and, (ho oids).2]

/-- Whatever order the map gives the oids in, a `doFsck` that returns without error leaves
the store `repaired` (untouched in a dry run) and answers true exactly when every object of
the index is stored and hashes to its oid; and when no system call fails it does return
without error, so the order never shows in its outcome. -/
theorem doFsck_outcome {iterate : List String → List String} {oids : List String}
    (ho : MapOrder iterate) (he : env.index = .ok oids) :
    (∀ fs' b, doFsck env sha mediaPath badDir dryRun iterate fs = (fs', .ok b) →
      fs' = (if dryRun then fs else repaired env sha mediaPath badDir oids fs) ∧
        (b = true ↔ ∀ o ∈ oids, stored env sha mediaPath fs o = true)) ∧
    (env = FsckEnv.ok oids →
      ∃ fs' b, doFsck env sha mediaPath badDir dryRun iterate fs = (fs', .ok b)) := by
  refine ⟨fun fs' b h => doFsck_ok hl ho he h, fun henv => ?_⟩
  subst henv
  exact fsckLoop_of_ok

theorem repaired_clean {oids : List String} {o : String} (ho : o ∈ oids)
    (hu : env.unopenable (mediaPath o) = false) {f : File}
    (hf : repaired env sha mediaPath badDir oids fs (mediaPath o) = some f) : sha f.content = o := by
  unfold repaired at hf
  rw [hl.base] at hf
  by_cases hc : corrupt env sha mediaPath fs o = true
  · simp [ho, hc, hl.apart] at hf
  · simp only [ho, hc, true_and, Bool.false_eq_true, if_false] at hf
    rw [corrupt, hf, hu] at hc
    simpa using hc

/-- After a fsck that returned without error, not a dry run, and could open every object of
the index, no object of the index is stored corrupt. `PointerSmudge`, which trusts any stored
file of the pointer's size, then writes only bytes that hash to the pointer's oid (when
linking from a reference leaves the media file as it is), and `PointerSmudgeObject` succeeds
only leaving a file that does. An object fsck could not open stays as it is. -/
theorem smudge_after_fsck {iterate : List String → List String} {oids : List String} {b : Bool}
    (ho : MapOrder iterate) (he : env.index = .ok oids)
    (hopen : ∀ o ∈ oids, env.unopenable (mediaPath o) = false)
    (h : doFsck env sha mediaPath badDir false iterate fs = (fs', .ok b))
    {senv : SmudgeEnv} {tmpDir : String} {localMediaPath : String → Except String Path}
    (hm : ∀ o, localMediaPath o = .ok (mediaPath o)) :
    (∀ (link : Fs → Fs) (ptr : Pointer) (download : Bool),
      ptr.oid ∈ oids → link fs' (mediaPath ptr.oid) = fs' (mediaPath ptr.oid) →
      (pointerSmudge senv sha tmpDir localMediaPath link ptr download fs').2.2 = .ok () →
        sha (pointerSmudge senv sha tmpDir localMediaPath link ptr download fs').2.1 = ptr.oid) ∧
    (∀ obj : Tq.ObjectResource, obj.oid ∈ oids →
      (pointerSmudgeObject senv sha tmpDir localMediaPath obj fs').2 = .ok () →
        ∃ g, (pointerSmudgeObject senv sha tmpDir localMediaPath obj fs').1 (mediaPath obj.oid) =
          some g ∧ sha g.content = obj.oid) := by
  have hclean : ∀ o ∈ oids, ∀ f, fs' (mediaPath o) = some f → sha f.content = o := by
    obtain ⟨rfl, -⟩ := doFsck_ok hl ho he h
    exact fun o ho f hf => repaired_clean hl ho (hopen o ho) hf
  refine ⟨fun link ptr download hp hlink hs => ?_, fun obj hp hs => ?_⟩
  · by_cases ht : (checkStored (link fs') (mediaPath ptr.oid) ptr.size).2 = true
    · -- a trusted file: the bytes are those fsck left at the media path
      obtain ⟨h₁, -⟩ := checkStored_of_trusted ht
      simp only [pointerSmudge, hm, ht, if_true, h₁, smudged_ok] at hs ⊢
      obtain ⟨f, hf, hw⟩ := readLocalFile_eq_ok hs
      rw [hw]
      exact hclean _ hp f (hlink ▸ hf)
    · -- a download: its bytes are hashed
      cases download
      · simp [pointerSmudge, hm, ht] at hs
      · rw [← hl.base ptr.oid]
        exact pointerSmudge_downloaded (hm _) (eq_false_of_ne_true ht) hs
  · by_cases ht : (checkStored fs' (mediaPath obj.oid) obj.size).2 = true
    · obtain ⟨h₁, f, hf, -⟩ := checkStored_of_trusted ht
      simp only [pointerSmudgeObject, hm, ht, if_true, h₁]
      exact ⟨f, hf, hclean _ hp f hf⟩
    · simp only [pointerSmudgeObject, hm, ht, Bool.false_eq_true, if_false, smudged_ok] at hs ⊢
      simpa [hl.base] using downloadObject_ok hs

end

/-- A store of one directory, its `bad` directory, and the map's order as `List.dedup`. -/
def objectsPath (oid : String) : Path := ⟨".git/lfs/objects/2c/f2", oid⟩
def badPath : String := ".git/lfs/bad"
def objectsMediaPath (oid : String) : Except String Path := .ok (objectsPath oid)

theorem objects_layout : Layout objectsPath badPath :=
  ⟨fun _ => rfl, fun _ => show ".git/lfs/objects/2c/f2" ≠ ".git/lfs/bad" by decide⟩

theorem dedup_order : MapOrder List.dedup :=
  fun l => ⟨List.nodup_dedup l, fun _ => List.mem_dedup⟩

/-- The fsck of a store whose copy of `hello` has its last byte flipped. -/
theorem doFsck_outcome_hellp :
    Layout objectsPath badPath ∧ MapOrder List.dedup ∧
      (FsckEnv.ok [helloPointer.oid]).index = .ok [helloPointer.oid] ∧
      ((∀ fs' b, doFsck (FsckEnv.ok [helloPointer.oid]) helloSha objectsPath badPath false
          List.dedup corruptStore = (fs', .ok b) →
        fs' = (if false then corruptStore
          else repaired (FsckEnv.ok [helloPointer.oid]) helloSha objectsPath badPath [helloPointer.oid] corruptStore) ∧
        (b = true ↔ ∀ o ∈ [helloPointer.oid], stored (FsckEnv.ok [helloPointer.oid]) helloSha objectsPath corruptStore o = true)) ∧
      (FsckEnv.ok [helloPointer.oid] = FsckEnv.ok [helloPointer.oid] →
        ∃ fs' b, doFsck (FsckEnv.ok [helloPointer.oid]) helloSha objectsPath badPath false
          List.dedup corruptStore = (fs', .ok b))) :=
  ⟨objects_layout, dedup_order, rfl, doFsck_outcome objects_layout dedup_order rfl⟩

/-- What that fsck leaves: the flipped copy moved to `bad`. -/
def fsckedStore : Fs := corruptStore.rename helloPath ⟨badPath, helloPointer.oid⟩

/-- Smudging `hello` after that fsck. -/
theorem smudge_after_fsck_hellp :
    (Layout objectsPath badPath ∧ MapOrder List.dedup ∧
      (FsckEnv.ok [helloPointer.oid]).index = .ok [helloPointer.oid] ∧
      (∀ o ∈ [helloPointer.oid], (FsckEnv.ok [helloPointer.oid]).unopenable (objectsPath o) = false) ∧
      doFsck (FsckEnv.ok [helloPointer.oid]) helloSha objectsPath badPath false List.dedup
        corruptStore = (fsckedStore, .ok false) ∧
      ∀ o, objectsMediaPath o = .ok (objectsPath o)) ∧
    (∀ (link : Fs → Fs) (ptr : Pointer) (download : Bool),
      ptr.oid ∈ [helloPointer.oid] →
      link fsckedStore (objectsPath ptr.oid) = fsckedStore (objectsPath ptr.oid) →
      (pointerSmudge offline helloSha ".git/lfs/tmp" objectsMediaPath link ptr download
        fsckedStore).2.2 = .ok () →
      helloSha (pointerSmudge offline helloSha ".git/lfs/tmp" objectsMediaPath link ptr download
        fsckedStore).2.1 = ptr.oid) ∧
    (∀ obj : Tq.ObjectResource, obj.oid ∈ [helloPointer.oid] →
      (pointerSmudgeObject offline helloSha ".git/lfs/tmp" objectsMediaPath obj fsckedStore).2 =
        .ok () →
      ∃ g, (pointerSmudgeObject offline helloSha ".git/lfs/tmp" objectsMediaPath obj
        fsckedStore).1 (objectsPath obj.oid) = some g ∧ helloSha g.content = obj.oid) :=
  have h : doFsck (FsckEnv.ok [helloPointer.oid]) helloSha objectsPath badPath false List.dedup
      corruptStore = (fsckedStore, .ok false) := rfl
  ⟨⟨objects_layout, dedup_order, rfl, fun _ _ => rfl, h, fun _ => rfl⟩,
    smudge_after_fsck objects_layout dedup_order rfl (fun _ _ => rfl) h fun _ => rfl⟩

end GitLfs.Commands
