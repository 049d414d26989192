import GitLfs.TransferQueue.Basic

/-! # Writing a downloaded object into the store

`bufferDownloadedFile` copies what it reads into a new temp file, checks the SHA-256 of the
bytes against the destination's base name, and renames the temp file over the destination.
A deferred closure removes the temp file only when the outer `err` is set, which the returns
after `f.Close()`, the hash check, `os.Chmod` and `os.Rename` do not do.
-/

namespace GitLfs.Lfs

/-- A path, as its directory and its last element, `filepath.Base`. -/
structure Path where
  dir : String
  base : String
  deriving DecidableEq, Repr

/-- `filepath.Join(dir, base)`. -/
def Path.render (p : Path) : String := p.dir ++ "/" ++ p.base

/-- A regular file: its bytes and its permission bits. -/
structure File where
  content : List UInt8
  mode : Nat
  deriving DecidableEq, Repr

/-- What each path of the filesystem holds. -/
def Fs := Path → Option File

namespace Fs

/-- A file written at `p`, created if it was not there. -/
def write (fs : Fs) (p : Path) (f : File) : Fs := fun x => if x = p then some f else fs x

/-- `os.Remove(p)`. -/
def remove (fs : Fs) (p : Path) : Fs := fun x => if x = p then none else fs x

/-- `os.Chmod(p, mode)`. -/
def chmod (fs : Fs) (p : Path) (mode : Nat) : Fs :=
  fun x => if x = p then (fs p).map fun f => { f with mode := mode } else fs x

/-- `os.Rename(src, dst)`: `dst` is replaced by what was at `src`. -/
def rename (fs : Fs) (src dst : Path) : Fs :=
  fun x => if x = dst then fs src else if x = src then none else fs x

variable {fs : Fs} {p x : Path}

@[simp] theorem write_self {f : File} : fs.write p f p = some f := if_pos rfl
@[simp] theorem write_of_ne {f : File} (h : x ≠ p) : fs.write p f x = fs x := if_neg h
@[simp] theorem remove_self : fs.remove p p = none := if_pos rfl
@[simp] theorem remove_of_ne (h : x ≠ p) : fs.remove p x = fs x := if_neg h
@[simp] theorem chmod_self {m : Nat} : fs.chmod p m p = (fs p).map fun f => { f with mode := m } :=
  if_pos rfl
@[simp] theorem chmod_of_ne {m : Nat} (h : x ≠ p) : fs.chmod p m x = fs x := if_neg h
@[simp] theorem rename_dst {src : Path} : fs.rename src p p = fs src := if_pos rfl
@[simp] theorem rename_src {dst : Path} (h : p ≠ dst) : fs.rename p dst p = none := by
  simp [rename, h]
@[simp] theorem rename_of_ne {src dst : Path} (h₁ : x ≠ dst) (h₂ : x ≠ src) :
    fs.rename src dst x = fs x := by
  simp [rename, h₁, h₂]

end Fs

/-- What the system calls and the reader do, as the environment chooses. Each fallible call
has the error it returns, if it fails; `suffix` is the random part of the temp file's name. -/
structure Env where
  suffix : String
  create : Option String
  copy : Option (Nat × String)
  close : Option String
  stat : Option String
  chmod : Option String
  rename : Option String

/-- No call fails. -/
def Env.ok (suffix : String) : Env := ⟨suffix, none, none, none, none, none, none⟩

/-- The mode `ioutil.TempFile` creates its file with. -/
def tempMode : Nat := 0o600

/-- `ioutil.TempFile(dir, prefix)`: a new, empty file named by the prefix and a random suffix.
It is never a file that exists already; the model reports the name taken as the error of the
last attempt. -/
def tempFile (env : Env) (fs : Fs) (dir pre : String) : Except String Path :=
  match env.create with
  | some err => .error err
  | none =>
    let name : Path := ⟨dir, pre ++ env.suffix⟩
    if (fs name).isSome then .error ("open " ++ name.render ++ ": file exists") else .ok name

/-- What `os.Stat` returns: an error `os.IsNotExist` recognises, or another one. -/
inductive StatError
  | notExist
  | other (err : String)
  deriving DecidableEq, Repr

/-- `os.Stat(p)`, as far as its caller reads it: the file's mode. -/
def stat (env : Env) (fs : Fs) (p : Path) : Except StatError Nat :=
  match env.stat, fs p with
  | some err, _ => .error (.other err)
  | none, none => .error .notExist
  | none, some f => .ok f.mode

/-- The errors `bufferDownloadedFile` returns, one per return site. -/
inductive BufferError
  | create (err : String)
  | write (name : Path) (err : String)
  | close (name : Path) (err : String)
  | mismatch (oid actual : String) (written : Nat)
  | stat (err : String)
  | chmod (name : Path) (err : String)
  | rename (filename name : Path) (err : String)
  deriving DecidableEq, Repr

/-- `%q`. -/
def quote (s : String) : String := "\"" ++ s ++ "\""

def BufferError.message : BufferError → String
  | .create err => "cannot create temp file: " ++ err
  | .write name err => "cannot write data to tempfile " ++ quote name.render ++ ": " ++ err
  | .close name err => "can't close tempfile " ++ quote name.render ++ ": " ++ err
  | .mismatch oid actual written =>
    "Expected OID " ++ oid ++ ", got " ++ actual ++ " after " ++ toString written ++ " bytes written"
  | .stat err => err
  | .chmod name err => "can't set filemode on tempfile " ++ quote name.render ++ ": " ++ err
  | .rename filename name err =>
    "cannot replace " ++ quote filename.render ++ " with tempfile " ++ quote name.render ++ ": " ++ err

/-- `os.Rename(name, filename)`, whose error is declared in its own `if`. -/
def renameTemp (env : Env) (filename name : Path) (fs : Fs) : Fs × Except BufferError Unit :=
  match env.rename with
  | some err => (fs, .error (.rename filename name err))
  | none => (fs.rename name filename, .ok ())

/-- `bufferDownloadedFile` from `os.Stat(filename)` on: the filesystem, whether the outer `err`
is set when the function returns (it holds what `os.Stat` returned), and what it returns. The
temp file takes the mode of a file already at `filename`. -/
def replaceFile (env : Env) (filename name : Path) (fs : Fs) : Fs × Bool × Except BufferError Unit :=
  match stat env fs filename with
  | .error .notExist => let r := renameTemp env filename name fs; (r.1, true, r.2)
  | .error (.other err) => (fs, true, .error (.stat err))
  | .ok mode =>
    match env.chmod with
    | some err => (fs, false, .error (.chmod name err))
    | none => let r := renameTemp env filename name (fs.chmod name mode); (r.1, false, r.2)

/-- `bufferDownloadedFile` from `tools.CopyWithCallback` on, once the temp file `name` exists.
`sha` is the hex SHA-256 that `tools.NewHashingReader` computes of what it read. The error
of `f.Close()` is declared in its `if`, and the hash check returns a new one, so neither
sets the outer `err`. -/
def bufferBody (env : Env) (sha : List UInt8 → String) (filename name : Path)
    (content : List UInt8) (fs : Fs) : Fs × Bool × Except BufferError Unit :=
  match env.copy with
  | some (n, err) => (fs.write name ⟨content.take n, tempMode⟩, true, .error (.write name err))
  | none =>
    let fs := fs.write name ⟨content, tempMode⟩
    match env.close with
    | some err => (fs, false, .error (.close name err))
    | none =>
      if sha content ≠ filename.base then
        (fs, false, .error (.mismatch filename.base (sha content) content.length))
      else replaceFile env filename name fs

/-- `bufferDownloadedFile(filename, reader, size, cb)`, with `reader` yielding `content`. The
temp file is made in `tmpDir`, `LocalObjectTempDir()`; the deferred closure removes it when
the outer `err` is set. -/
def bufferDownloadedFile (env : Env) (sha : List UInt8 → String) (tmpDir : String)
    (filename : Path) (content : List UInt8) (fs : Fs) : Fs × Except BufferError Unit :=
  match tempFile env fs tmpDir (filename.base ++ "-") with
  | .error err => (fs, .error (.create err))
  | .ok name =>
    let r := bufferBody env sha filename name content (fs.write name ⟨[], tempMode⟩)
    (if r.2.1 then r.1.remove name else r.1, r.2.2)

variable {env : Env} {sha : List UInt8 → String} {tmpDir : String} {filename name : Path}
  {content : List UInt8} {fs : Fs} {e : BufferError}

/-- The name `ioutil.TempFile` gives the temp file for `filename`. -/
def tempName (env : Env) (tmpDir : String) (filename : Path) : Path :=
  ⟨tmpDir, filename.base ++ "-" ++ env.suffix⟩

theorem tempName_ne : tempName env tmpDir filename ≠ filename := by
  intro h
  have := congrArg (fun p : Path => p.base.length) h
  have : "-".length = 1 := rfl
  simp only [tempName, String.length_append] at *
  omega

theorem tempFile_ok (h : tempFile env fs tmpDir (filename.base ++ "-") = .ok name) :
    env.create = none ∧ name = tempName env tmpDir filename ∧ fs name = none := by
  unfold tempFile at h
  split at h
  · cases h
  · dsimp only at h
    split at h
    · cases h
    · cases h; exact ⟨‹_›, rfl, Option.not_isSome_iff_eq_none.mp ‹_›⟩

theorem renameTemp_error (h : (renameTemp env filename name fs).2 = .error e) :
    (renameTemp env filename name fs).1 = fs := by
  cases hr : env.rename <;> simp [renameTemp, hr] at h ⊢

theorem renameTemp_ok (h : (renameTemp env filename name fs).2 = .ok ()) :
    (renameTemp env filename name fs).1 = fs.rename name filename := by
  cases hr : env.rename <;> simp [renameTemp, hr] at h ⊢

theorem replaceFile_error (h : (replaceFile env filename name fs).2.2 = .error e) :
    (∀ x ≠ name, (replaceFile env filename name fs).1 x = fs x) ∧
      ((replaceFile env filename name fs).1 name).isSome = (fs name).isSome := by
  unfold replaceFile at h ⊢
  split at h
  · simp only [‹stat _ _ _ = _›] at h ⊢
    rw [renameTemp_error h]
    simp
  · simp [‹stat _ _ _ = _›]
  · simp only [‹stat _ _ _ = _›] at h ⊢
    split at h
    · simp [‹env.chmod = _›]
    · simp only [‹env.chmod = _›] at h ⊢
      rw [renameTemp_error h]
      exact ⟨fun x hx => by simp [hx], by simp⟩

theorem replaceFile_ok (hn : name ≠ filename)
    (h : (replaceFile env filename name fs).2.2 = .ok ()) :
    env.stat = none ∧
      (replaceFile env filename name fs).1 filename =
        (fs name).map (fun f => { f with mode := ((fs filename).map File.mode).getD f.mode }) ∧
      (replaceFile env filename name fs).1 name = none ∧
      ∀ x ≠ name, x ≠ filename → (replaceFile env filename name fs).1 x = fs x := by
  unfold replaceFile at h ⊢
  cases hst : env.stat <;> cases hf : fs filename <;> simp only [stat, hst, hf] at h ⊢
  · rw [renameTemp_ok h]
    exact ⟨trivial, by simp, by simp [hn], fun x h₁ h₂ => by simp [h₁, h₂]⟩
  · split at h
    · cases h
    · simp only [‹env.chmod = _›] at h ⊢
      rw [renameTemp_ok h]
      exact ⟨trivial, by simp, by simp [hn], fun x h₁ h₂ => by simp [h₁, h₂]⟩
  · cases h
  · cases h

theorem replaceFile_set :
    (replaceFile env filename name fs).2.1 = true ↔ env.stat.isSome ∨ fs filename = none := by
  unfold replaceFile
  cases hst : env.stat <;> cases hf : fs filename <;> simp only [stat, hst, hf] <;> simp
  split <;> simp

theorem bufferBody_error (h : (bufferBody env sha filename name content fs).2.2 = .error e) :
    (∀ x ≠ name, (bufferBody env sha filename name content fs).1 x = fs x) ∧
      ((bufferBody env sha filename name content fs).1 name).isSome := by
  unfold bufferBody at h ⊢
  cases hc : env.copy with
  | some _ => simp only [hc]; exact ⟨fun x hx => by simp [hx], by simp⟩
  | none =>
    simp only [hc] at h ⊢
    cases hcl : env.close with
    | some _ => simp only [hcl]; exact ⟨fun x hx => by simp [hx], by simp⟩
    | none =>
      simp only [hcl] at h ⊢
      by_cases hsha : sha content = filename.base
      · simp only [hsha, ne_eq, not_true_eq_false, ↓reduceIte] at h ⊢
        obtain ⟨h₁, h₂⟩ := replaceFile_error h
        exact ⟨fun x hx => by rw [h₁ x hx]; simp [hx], by rw [h₂]; simp⟩
      · simp only [hsha, ne_eq, not_false_eq_true, ↓reduceIte]
        exact ⟨fun x hx => by simp [hx], by simp⟩

theorem bufferBody_ok (hn : name ≠ filename)
    (h : (bufferBody env sha filename name content fs).2.2 = .ok ()) :
    sha content = filename.base ∧
      (bufferBody env sha filename name content fs).1 filename =
        some ⟨content, ((fs filename).map File.mode).getD tempMode⟩ ∧
      (bufferBody env sha filename name content fs).1 name = none ∧
      ∀ x ≠ name, x ≠ filename →
        (bufferBody env sha filename name content fs).1 x = fs x := by
  unfold bufferBody at h ⊢
  cases hc : env.copy with
  | some _ => simp [hc] at h
  | none =>
    simp only [hc] at h ⊢
    cases hcl : env.close with
    | some _ => simp [hcl] at h
    | none =>
      simp only [hcl] at h ⊢
      by_cases hsha : sha content = filename.base
      · simp only [hsha, ne_eq, not_true_eq_false, ↓reduceIte] at h ⊢
        obtain ⟨-, h₁, h₂, h₃⟩ := replaceFile_ok hn h
        refine ⟨trivial, ?_, h₂, fun x hx hf => by simp [h₃ x hx hf, hx]⟩
        rw [h₁]
        cases hf : fs filename <;> simp [hn.symm, hf]
      · simp [hsha] at h

theorem bufferBody_set (hn : name ≠ filename) :
    (bufferBody env sha filename name content fs).2.1 = true ↔ env.copy.isSome ∨
      (env.close = none ∧ sha content = filename.base ∧
        (env.stat.isSome ∨ fs filename = none)) := by
  unfold bufferBody
  cases hc : env.copy with
  | some _ => simp
  | none =>
    cases hcl : env.close with
    | some _ => simp
    | none =>
      by_cases hsha : sha content = filename.base
      · simp [hsha, replaceFile_set, hn.symm]
      · simp [hsha]

theorem tempFile_fresh (hc : env.create = none) (hfree : fs (tempName env tmpDir filename) = none) :
    tempFile env fs tmpDir (filename.base ++ "-") = .ok (tempName env tmpDir filename) := by
  simp [tempFile, hc, tempName, ← String.append_assoc] at hfree ⊢
  simp [hfree]

theorem bufferDownloadedFile_error
    (h : (bufferDownloadedFile env sha tmpDir filename content fs).2 = .error e) :
    ∀ x ≠ tempName env tmpDir filename,
      (bufferDownloadedFile env sha tmpDir filename content fs).1 x = fs x := by
  intro x hx
  unfold bufferDownloadedFile at h ⊢
  cases ht : tempFile env fs tmpDir (filename.base ++ "-") with
  | error err => rfl
  | ok name =>
    obtain ⟨-, rfl, -⟩ := tempFile_ok ht
    simp only [ht] at h ⊢
    have := (bufferBody_error h).1 x hx
    split <;> simp [hx, this]

/-- On success the bytes read hash to the destination's base name and are at the
destination, with the mode of the file they replaced; the temp file is gone, and no other
file changed. -/
theorem bufferDownloadedFile_ok
    (h : (bufferDownloadedFile env sha tmpDir filename content fs).2 = .ok ()) :
    sha content = filename.base ∧
      (bufferDownloadedFile env sha tmpDir filename content fs).1 filename =
        some ⟨content, ((fs filename).map File.mode).getD tempMode⟩ ∧
      (bufferDownloadedFile env sha tmpDir filename content fs).1 (tempName env tmpDir filename) =
        none ∧
      ∀ x ≠ filename, x ≠ tempName env tmpDir filename →
        (bufferDownloadedFile env sha tmpDir filename content fs).1 x = fs x := by
  unfold bufferDownloadedFile at h ⊢
  cases ht : tempFile env fs tmpDir (filename.base ++ "-") with
  | error err => simp [ht] at h
  | ok name =>
    obtain ⟨-, rfl, -⟩ := tempFile_ok ht
    simp only [ht] at h ⊢
    have hn : tempName env tmpDir filename ≠ filename := tempName_ne
    obtain ⟨hsha, h₁, h₂, h₃⟩ := bufferBody_ok hn h
    refine ⟨hsha, ?_, ?_, fun x hf hx => ?_⟩
    · split <;> simp [h₁, hn.symm]
    · split <;> simp [h₂]
    · split <;> simp [h₃ x hx hf, hx]

/-- When the bytes read do not hash to the destination's base name, `bufferDownloadedFile`
returns the mismatch error and leaves the temp file it created, with every byte it read, in
the temp directory: the outer `err` is nil at that return, so the deferred closure removes
nothing. The destination is as it was. -/
theorem mismatch_leaves_temp (hc : env.create = none) (hcopy : env.copy = none)
    (hclose : env.close = none) (hfree : fs (tempName env tmpDir filename) = none)
    (hsha : sha content ≠ filename.base) :
    (bufferDownloadedFile env sha tmpDir filename content fs).2 =
        .error (.mismatch filename.base (sha content) content.length) ∧
      (bufferDownloadedFile env sha tmpDir filename content fs).1 (tempName env tmpDir filename) =
        some ⟨content, tempMode⟩ ∧
      (bufferDownloadedFile env sha tmpDir filename content fs).1 filename = fs filename := by
  have hn : tempName env tmpDir filename ≠ filename := tempName_ne
  simp [bufferDownloadedFile, tempFile_fresh hc hfree, bufferBody, hcopy, hclose, hsha, hn.symm]

/-- The hex SHA-256 of the two objects below, `hi` and the empty one. -/
def sampleSha (content : List UInt8) : String :=
  if content = [] then "e3b0c44298fc1c149afbf4c8996fb92427ae41e4649b934ca495991b7852b855"
  else "8f434346648f6b96df89dda901c5176b10a6d83961dd3c1ac88b59b2dc327aa4"

/-- Where the store keeps the empty object. -/
def emptyObjectPath : Path :=
  ⟨".git/lfs/objects/e3/b0", "e3b0c44298fc1c149afbf4c8996fb92427ae41e4649b934ca495991b7852b855"⟩

/-- The bytes of `hi` downloaded for the empty object's path in an empty store. -/
theorem mismatch_leaves_temp_hi :
    (Env.ok "123456789").create = none ∧ (Env.ok "123456789").copy = none ∧
      (Env.ok "123456789").close = none ∧
      (fun _ => none : Fs) (tempName (Env.ok "123456789") ".git/lfs/tmp" emptyObjectPath) = none ∧
      sampleSha [104, 105] ≠ emptyObjectPath.base ∧
      (bufferDownloadedFile (Env.ok "123456789") sampleSha ".git/lfs/tmp" emptyObjectPath [104, 105]
          fun _ => none).2 = .error (.mismatch emptyObjectPath.base (sampleSha [104, 105]) 2) ∧
      (bufferDownloadedFile (Env.ok "123456789") sampleSha ".git/lfs/tmp" emptyObjectPath [104, 105]
          fun _ => none).1 (tempName (Env.ok "123456789") ".git/lfs/tmp" emptyObjectPath) =
        some ⟨[104, 105], tempMode⟩ ∧
      (bufferDownloadedFile (Env.ok "123456789") sampleSha ".git/lfs/tmp" emptyObjectPath [104, 105]
          fun _ => none).1 emptyObjectPath = none :=
  have hsha : sampleSha [104, 105] ≠ emptyObjectPath.base := by decide
  ⟨rfl, rfl, rfl, rfl, hsha, mismatch_leaves_temp rfl rfl rfl rfl hsha⟩

/-- After an error, the temp file `bufferDownloadedFile` created is gone exactly when the
outer `err` was set as it returned: when the copy failed, or when `os.Stat` failed or found
no file at the destination. The failure of `f.Close()`, a hash mismatch, and the failure of
`os.Chmod` or of `os.Rename` over an existing file leave it behind. -/
theorem temp_removed_iff (hc : env.create = none) (hfree : fs (tempName env tmpDir filename) = none)
    (h : (bufferDownloadedFile env sha tmpDir filename content fs).2 = .error e) :
    (bufferDownloadedFile env sha tmpDir filename content fs).1 (tempName env tmpDir filename) = none ↔
      env.copy.isSome ∨
        (env.close = none ∧ sha content = filename.base ∧ (env.stat.isSome ∨ fs filename = none)) := by
  have hn : tempName env tmpDir filename ≠ filename := tempName_ne
  unfold bufferDownloadedFile at h ⊢
  simp only [tempFile_fresh hc hfree] at h ⊢
  have hs := (bufferBody_error h).2
  have hw : fs.write (tempName env tmpDir filename) ⟨[], tempMode⟩ filename = fs filename :=
    Fs.write_of_ne hn.symm
  rw [← hw, ← bufferBody_set hn]
  split <;> simp_all [Option.isSome_iff_ne_none]

theorem temp_removed_iff_hi :
    (Env.ok "123456789").create = none ∧
      (fun _ => none : Fs) (tempName (Env.ok "123456789") ".git/lfs/tmp" emptyObjectPath) = none ∧
      (bufferDownloadedFile (Env.ok "123456789") sampleSha ".git/lfs/tmp" emptyObjectPath [104, 105]
          fun _ => none).2 = .error (.mismatch emptyObjectPath.base (sampleSha [104, 105]) 2) ∧
      ((bufferDownloadedFile (Env.ok "123456789") sampleSha ".git/lfs/tmp" emptyObjectPath
          [104, 105] fun _ => none).1 (tempName (Env.ok "123456789") ".git/lfs/tmp" emptyObjectPath) =
          none ↔
        (Env.ok "123456789").copy.isSome ∨ ((Env.ok "123456789").close = none ∧
          sampleSha [104, 105] = emptyObjectPath.base ∧
          ((Env.ok "123456789").stat.isSome ∨ (fun _ => none : Fs) emptyObjectPath = none))) :=
  have h : (bufferDownloadedFile (Env.ok "123456789") sampleSha ".git/lfs/tmp" emptyObjectPath
      [104, 105] fun _ => none).2 = .error (.mismatch emptyObjectPath.base (sampleSha [104, 105]) 2) := by
    rfl
  ⟨rfl, rfl, h, temp_removed_iff rfl rfl h⟩

end GitLfs.Lfs
