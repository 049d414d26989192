import GitLfs.Lfs.Download

/-! # Smudging a pointer from the local store

`PointerSmudge` and `PointerSmudgeObject` look for the object in the local store first. A
stored file whose size is zero or differs from the pointer's is removed and downloaded
again; any other stored file is trusted. `PointerSmudge` copies it to the working tree with
`readLocalFile`, and `PointerSmudgeObject` keeps it; neither hashes it. Only a download goes
through `bufferDownloadedFile`, which checks the SHA-256 of the bytes against the oid.
-/

namespace GitLfs.Lfs

/-- A pointer without extensions: the oid and size of its object. -/
structure Pointer where
  oid : String
  size : Int
  deriving DecidableEq, Repr

/-- What the smudge paths read from outside: what `api.Download` and `api.DownloadObject`
return (the object's bytes and size, or an error), the failure of the copy in
`readLocalFile`, if any, with the number of bytes it had written, and the system calls of
`bufferDownloadedFile`. -/
structure SmudgeEnv where
  download : Except String (List UInt8 × Int)
  downloadObject : Except String (List UInt8 × Int)
  read : Option (Nat × String)
  buffer : Env

/-- The errors of `PointerSmudge` and `PointerSmudgeObject`: that of `LocalMediaPath`, the
declined download, and `errutil.NewSmudgeError` around the error of a download or a read. -/
inductive SmudgeError
  | path (err : String)
  | declined
  | smudge (err : String) (oid : String) (mediafile : Path)
  deriving DecidableEq, Repr

section

variable (env : SmudgeEnv) (sha : List UInt8 → String) (tmpDir : String)

/-- `os.Stat(mediafile)` and the size check both functions make: a stored file of size zero
or of another size than `size` is removed with `os.RemoveAll`. The result says whether a
stored file is trusted. -/
def checkStored (fs : Fs) (mediafile : Path) (size : Int) : Fs × Bool :=
  match fs mediafile with
  | some f =>
    if f.content.length = 0 ∨ (f.content.length : Int) ≠ size then (fs.remove mediafile, false)
    else (fs, true)
  | none => (fs, false)

/-- `readLocalFile(writer, ptr, mediafile, workingfile, cb)` for a pointer without
extensions: the bytes it writes to `writer`, and its error. `CopyWithCallback` has written
what it read before a failure. -/
def readLocalFile (mediafile : Path) (fs : Fs) : List UInt8 × Except String Unit :=
  match fs mediafile with
  | none => ([], .error "Error opening media file.")
  | some f =>
    match env.read with
    | some (n, err) => (f.content.take n, .error ("Error reading from media file: " ++ err))
    | none => (f.content, .ok ())

/-- `downloadFile(writer, ptr, workingfile, mediafile, cb)`: `api.Download`, then
`bufferDownloadedFile` into `mediafile`, then `readLocalFile`. -/
def downloadFile (mediafile : Path) (fs : Fs) : Fs × List UInt8 × Except String Unit :=
  match env.download with
  | .error err => (fs, [], .error ("Error downloading " ++ mediafile.base ++ ": " ++ err))
  | .ok (content, _) =>
    let r := bufferDownloadedFile env.buffer sha tmpDir mediafile content fs
    match r.2 with
    | .error e => (r.1, [], .error ("Error buffering media file: " ++ e.message))
    | .ok () => (r.1, readLocalFile env mediafile r.1)

/-- `downloadObject(ptr, obj, mediafile, cb)`: `api.DownloadObject`, then
`bufferDownloadedFile` into `mediafile`. -/
def downloadObject (mediafile : Path) (fs : Fs) : Fs × Except String Unit :=
  match env.downloadObject with
  | .error err => (fs, .error ("Error downloading " ++ mediafile.render ++ ": " ++ err))
  | .ok (content, _) =>
    let r := bufferDownloadedFile env.buffer sha tmpDir mediafile content fs
    match r.2 with
    | .error e => (r.1, .error ("Error buffering media file: " ++ e.message))
    | .ok () => (r.1, .ok ())

/-- `errutil.NewSmudgeError(err, oid, mediafile)` around the error of a download or a read. -/
def smudged {α : Type} (oid : String) (mediafile : Path) (r : Except String α) :
    Except SmudgeError α :=
  r.mapError (SmudgeError.smudge · oid mediafile)

variable (localMediaPath : String → Except String Path) (linkOrCopyFromReference : Fs → Fs)

/-- `PointerSmudge(writer, ptr, workingfile, download, cb)`: the store afterwards, the bytes
written to `writer`, and the error. `LocalMediaPath` and `LinkOrCopyFromReference` are not in
the source and are taken as given. -/
def pointerSmudge (ptr : Pointer) (download : Bool) (fs : Fs) :
    Fs × List UInt8 × Except SmudgeError Unit :=
  match localMediaPath ptr.oid with
  | .error err => (fs, [], .error (.path err))
  | .ok mediafile =>
    let c := checkStored (linkOrCopyFromReference fs) mediafile ptr.size
    if c.2 then
      let w := readLocalFile env mediafile c.1
      (c.1, w.1, smudged ptr.oid mediafile w.2)
    else if download then
      let d := downloadFile env sha tmpDir mediafile c.1
      (d.1, d.2.1, smudged ptr.oid mediafile d.2.2)
    else (c.1, [], .error .declined)

/-- `PointerSmudgeObject(ptr, obj, cb)`: the store afterwards, and the error, if any. -/
def pointerSmudgeObject (obj : Tq.ObjectResource) (fs : Fs) : Fs × Except SmudgeError Unit :=
  match localMediaPath obj.oid with
  | .error err => (fs, .error (.path err))
  | .ok mediafile =>
    let c := checkStored fs mediafile obj.size
    if c.2 then (c.1, .ok ())
    else
      let d := downloadObject env sha tmpDir mediafile c.1
      (d.1, smudged obj.oid mediafile d.2)

end

section

variable {env : SmudgeEnv} {sha : List UInt8 → String} {tmpDir : String}
  {localMediaPath : String → Except String Path} {linkOrCopyFromReference : Fs → Fs}
  {fs : Fs} {mediafile : Path} {f : File}

theorem checkStored_trusted {size : Int} (hf : fs mediafile = some f) (hne : f.content ≠ [])
    (hs : (f.content.length : Int) = size) : checkStored fs mediafile size = (fs, true) := by
  simp [checkStored, hf, hs, hne]

theorem readLocalFile_ok (hf : fs mediafile = some f) (hr : env.read = none) :
    readLocalFile env mediafile fs = (f.content, .ok ()) := by
  simp [readLocalFile, hf, hr]

theorem readLocalFile_eq_ok (h : (readLocalFile env mediafile fs).2 = .ok ()) :
    ∃ f, fs mediafile = some f ∧ (readLocalFile env mediafile fs).1 = f.content := by
  unfold readLocalFile at h ⊢
  cases hf : fs mediafile with
  | none => simp [hf] at h
  | some f => cases hr : env.read <;> simp_all

theorem downloadFile_ok (h : (downloadFile env sha tmpDir mediafile fs).2.2 = .ok ()) :
    sha (downloadFile env sha tmpDir mediafile fs).2.1 = mediafile.base ∧
      (downloadFile env sha tmpDir mediafile fs).1 mediafile =
        some ⟨(downloadFile env sha tmpDir mediafile fs).2.1,
          ((fs mediafile).map File.mode).getD tempMode⟩ := by
  unfold downloadFile at h ⊢
  cases hd : env.download with
  | error err => simp [hd] at h
  | ok p =>
    obtain ⟨content, size⟩ := p
    simp only [hd] at h ⊢
    cases hb : (bufferDownloadedFile env.buffer sha tmpDir mediafile content fs).2 with
    | error e => simp [hb] at h
    | ok u =>
      obtain ⟨hsha, h₁, -⟩ := bufferDownloadedFile_ok hb
      simp only [hb, readLocalFile, h₁] at h ⊢
      cases hr : env.read <;> simp [hr] at h ⊢
      exact hsha

theorem downloadObject_ok (h : (downloadObject env sha tmpDir mediafile fs).2 = .ok ()) :
    ∃ g, (downloadObject env sha tmpDir mediafile fs).1 mediafile = some g ∧
      sha g.content = mediafile.base := by
  unfold downloadObject at h ⊢
  cases hd : env.downloadObject with
  | error err => simp [hd] at h
  | ok p =>
    obtain ⟨content, size⟩ := p
    simp only [hd] at h ⊢
    cases hb : (bufferDownloadedFile env.buffer sha tmpDir mediafile content fs).2 with
    | error e => simp [hb] at h
    | ok u =>
      obtain ⟨hsha, h₁, -⟩ := bufferDownloadedFile_ok hb
      exact ⟨_, h₁, hsha⟩

theorem checkStored_of_trusted {size : Int} (h : (checkStored fs mediafile size).2 = true) :
    (checkStored fs mediafile size).1 = fs ∧
      ∃ f, fs mediafile = some f ∧ f.content ≠ [] ∧ (f.content.length : Int) = size := by
  unfold checkStored at h ⊢
  cases hf : fs mediafile with
  | none => simp [hf] at h
  | some f =>
    simp only [hf] at h ⊢
    split at h <;> simp_all

@[simp] theorem smudged_ok {α : Type} {oid : String} {r : Except String α} {a : α} :
    smudged oid mediafile r = .ok a ↔ r = .ok a := by
  cases r <;> simp [smudged, Except.mapError]

theorem pointerSmudge_downloaded {ptr : Pointer}
    (hp : localMediaPath ptr.oid = .ok mediafile)
    (hs : (checkStored (linkOrCopyFromReference fs) mediafile ptr.size).2 = false)
    (h : (pointerSmudge env sha tmpDir localMediaPath linkOrCopyFromReference ptr true fs).2.2 =
      .ok ()) :
    sha (pointerSmudge env sha tmpDir localMediaPath linkOrCopyFromReference ptr true fs).2.1 =
      mediafile.base := by
  simp only [pointerSmudge, hp, hs, Bool.false_eq_true, ↓reduceIte, smudged_ok] at h ⊢
  exact (downloadFile_ok h).1

/-- A stored file of the pointer's size is trusted, whatever its bytes. When they do not
hash to the oid, `PointerSmudge` still returns nil having written them to the working tree,
and `PointerSmudgeObject` returns nil and keeps the file in the store. -/
theorem smudge_trusts_stored_size {ptr : Pointer} {obj : Tq.ObjectResource} {download : Bool}
    (hp : localMediaPath ptr.oid = .ok mediafile) (ho : localMediaPath obj.oid = .ok mediafile)
    (hl : linkOrCopyFromReference fs mediafile = some f) (hf : fs mediafile = some f)
    (hne : f.content ≠ []) (hsize : (f.content.length : Int) = ptr.size)
    (hsize' : (f.content.length : Int) = obj.size) (hr : env.read = none)
    (hsha : sha f.content ≠ ptr.oid) (hsha' : sha f.content ≠ obj.oid) :
    ((pointerSmudge env sha tmpDir localMediaPath linkOrCopyFromReference ptr download fs).2.2 =
        .ok () ∧
      sha (pointerSmudge env sha tmpDir localMediaPath linkOrCopyFromReference ptr download
        fs).2.1 ≠ ptr.oid) ∧
      (pointerSmudgeObject env sha tmpDir localMediaPath obj fs).2 = .ok () ∧
      ∃ g, (pointerSmudgeObject env sha tmpDir localMediaPath obj fs).1 mediafile = some g ∧
        sha g.content ≠ obj.oid := by
  have hp' : pointerSmudge env sha tmpDir localMediaPath linkOrCopyFromReference ptr download fs =
      (linkOrCopyFromReference fs, f.content, .ok ()) := by
    simp [pointerSmudge, hp, checkStored_trusted hl hne hsize, readLocalFile_ok hl hr, smudged,
      Except.mapError]
  have ho' : pointerSmudgeObject env sha tmpDir localMediaPath obj fs = (fs, .ok ()) := by
    simp [pointerSmudgeObject, ho, checkStored_trusted hf hne hsize']
  rw [hp', ho']
  exact ⟨⟨rfl, hsha⟩, rfl, f, hf, hsha'⟩

/-- What the smudge paths serve without an error: `PointerSmudge` writes either the bytes of a
stored file that is not empty and has the pointer's size, or, when it may download, bytes
whose hash is the media file's name; after `PointerSmudgeObject` the media file either has
the object's size or holds bytes with that hash. Only a download is checked against the
hash. -/
theorem smudge_serves_stored_or_verified {ptr : Pointer} {obj : Tq.ObjectResource}
    {download : Bool} {m m' : Path} (hp : localMediaPath ptr.oid = .ok m)
    (ho : localMediaPath obj.oid = .ok m') :
    ((pointerSmudge env sha tmpDir localMediaPath linkOrCopyFromReference ptr download fs).2.2 =
        .ok () →
      (∃ f, linkOrCopyFromReference fs m = some f ∧ f.content ≠ [] ∧
          (f.content.length : Int) = ptr.size ∧
          (pointerSmudge env sha tmpDir localMediaPath linkOrCopyFromReference ptr download
            fs).2.1 = f.content) ∨
        (download = true ∧ sha (pointerSmudge env sha tmpDir localMediaPath
          linkOrCopyFromReference ptr download fs).2.1 = m.base)) ∧
    ((pointerSmudgeObject env sha tmpDir localMediaPath obj fs).2 = .ok () →
      ∃ g, (pointerSmudgeObject env sha tmpDir localMediaPath obj fs).1 m' = some g ∧
        ((g.content ≠ [] ∧ (g.content.length : Int) = obj.size) ∨ sha g.content = m'.base)) := by
  constructor
  · intro h
    by_cases hs : (checkStored (linkOrCopyFromReference fs) m ptr.size).2 = true
    · obtain ⟨hfs, f, hf, hne, hsize⟩ := checkStored_of_trusted hs
      simp only [pointerSmudge, hp, hs, ↓reduceIte, smudged_ok] at h ⊢
      obtain ⟨g, hg, hw⟩ := readLocalFile_eq_ok h
      rw [hfs] at hg
      obtain rfl : g = f := Option.some.inj (hg.symm.trans hf)
      exact .inl ⟨g, hf, hne, hsize, hw⟩
    · cases download
      · simp [pointerSmudge, hp, hs] at h
      · exact .inr ⟨rfl, pointerSmudge_downloaded hp (by simpa using hs) h⟩
  · intro h
    by_cases hs : (checkStored fs m' obj.size).2 = true
    · obtain ⟨hfs, f, hf, hne, hsize⟩ := checkStored_of_trusted hs
      simp only [pointerSmudgeObject, ho, hs, ↓reduceIte, hfs]
      exact ⟨f, hf, .inl ⟨hne, hsize⟩⟩
    · simp only [pointerSmudgeObject, ho, hs, Bool.false_eq_true, ↓reduceIte, smudged_ok] at h ⊢
      obtain ⟨g, hg, hsha⟩ := downloadObject_ok h
      exact ⟨g, hg, .inr hsha⟩

end

/-- The bytes of `hello`, and the same bytes with the last one flipped. -/
def helloBytes : List UInt8 := [104, 101, 108, 108, 111]
def hellpBytes : List UInt8 := [104, 101, 108, 108, 112]

/-- The hex SHA-256 of `hello`; any other content hashes to something else. -/
def helloSha (content : List UInt8) : String :=
  if content = helloBytes then "2cf24dba5fb0a30e26e83b2ac5b9e29e1b161e5c1fa7425e73043362938b9824"
  else "not the oid of hello"

/-- The store path of `hello`, holding the flipped bytes. -/
def helloPath : Path := ⟨".git/lfs/objects/2c/f2", helloSha helloBytes⟩

def corruptStore : Fs := fun p => if p = helloPath then some ⟨hellpBytes, 0o644⟩ else none

def helloPointer : Pointer := ⟨helloSha helloBytes, 5⟩
def helloObject : Tq.ObjectResource := ⟨helloSha helloBytes, 5, ["download"], none⟩

/-- No network, and every system call succeeds. -/
def offline : SmudgeEnv := ⟨.error "offline", .error "offline", none, Env.ok "1"⟩

def helloMediaPath (_ : String) : Except String Path := .ok helloPath

/-- `hello`'s pointer smudged from a store whose copy of it has its last byte flipped. -/
theorem smudge_trusts_stored_size_hellp :
    (helloMediaPath helloPointer.oid = .ok helloPath ∧ helloMediaPath helloObject.oid = .ok helloPath ∧
      id corruptStore helloPath = some ⟨hellpBytes, 0o644⟩ ∧
      corruptStore helloPath = some ⟨hellpBytes, 0o644⟩ ∧ hellpBytes ≠ [] ∧
      (hellpBytes.length : Int) = helloPointer.size ∧ (hellpBytes.length : Int) = helloObject.size ∧
      offline.read = none ∧ helloSha hellpBytes ≠ helloPointer.oid ∧
      helloSha hellpBytes ≠ helloObject.oid) ∧
    (((pointerSmudge offline helloSha ".git/lfs/tmp" helloMediaPath id helloPointer false
        corruptStore).2.2 = .ok () ∧
      helloSha (pointerSmudge offline helloSha ".git/lfs/tmp" helloMediaPath id helloPointer false
        corruptStore).2.1 ≠ helloPointer.oid) ∧
      (pointerSmudgeObject offline helloSha ".git/lfs/tmp" helloMediaPath helloObject corruptStore).2 =
        .ok () ∧
      ∃ g, (pointerSmudgeObject offline helloSha ".git/lfs/tmp" helloMediaPath helloObject
        corruptStore).1 helloPath = some g ∧ helloSha g.content ≠ helloObject.oid) :=
  have hs : corruptStore helloPath = some ⟨hellpBytes, 0o644⟩ := if_pos rfl
  have hsha : helloSha hellpBytes ≠ helloSha helloBytes := by decide
  ⟨⟨rfl, rfl, hs, hs, by decide, rfl, rfl, rfl, hsha, hsha⟩,
    smudge_trusts_stored_size rfl rfl hs hs (by decide) rfl rfl rfl hsha hsha⟩

/-- `hello`'s pointer and object, offline, over the store with the flipped byte. -/
theorem smudge_serves_hello :
    ((pointerSmudge offline helloSha ".git/lfs/tmp" helloMediaPath id helloPointer false
        corruptStore).2.2 = .ok () →
      (∃ f, id corruptStore helloPath = some f ∧ f.content ≠ [] ∧
          (f.content.length : Int) = helloPointer.size ∧
          (pointerSmudge offline helloSha ".git/lfs/tmp" helloMediaPath id helloPointer false
            corruptStore).2.1 = f.content) ∨
        (false = true ∧ helloSha (pointerSmudge offline helloSha ".git/lfs/tmp" helloMediaPath
          id helloPointer false corruptStore).2.1 = helloPath.base)) ∧
    ((pointerSmudgeObject offline helloSha ".git/lfs/tmp" helloMediaPath helloObject
        corruptStore).2 = .ok () →
      ∃ g, (pointerSmudgeObject offline helloSha ".git/lfs/tmp" helloMediaPath helloObject
          corruptStore).1 helloPath = some g ∧
        ((g.content ≠ [] ∧ (g.content.length : Int) = helloObject.size) ∨
          helloSha g.content = helloPath.base)) :=
  smudge_serves_stored_or_verified rfl rfl

end GitLfs.Lfs
