import GitLfs.Lfs.Smudge

/-! # `git lfs smudge`

The smudge filter reads a pointer on standard input and writes the object's content in its
place. `smudge` decides whether a missing object may be downloaded and hands the pointer to
`PointerSmudge`; when that fails, it writes the pointer after whatever was written, logs the
error unless the download was declined as asked, and exits with status 2 unless
`lfs.skipdownloaderrors` is set.
-/

namespace GitLfs.Commands

open GitLfs.Lfs

/-- What `smudge` reads besides the store and the pointer: the error of
`CopyCallbackFile`, the fetch include and exclude filter, `GIT_LFS_SKIP_SMUDGE`,
`lfs.skipdownloaderrors`, and the text `ptr.Encode` writes, which is not in the source. -/
structure SmudgeConfig where
  callbackErr : Option String
  allows : String → Bool
  skipSmudge : Bool
  skipDownloadErrors : Bool
  encode : Pointer → List UInt8

/-- How `smudge` ends: it returns an error or nil, or `os.Exit` ends the process. -/
inductive SmudgeEnd
  | returned (err : Option String)
  | exit (code : Nat)
  deriving DecidableEq, Repr

/-- The store after `smudge`, the bytes it wrote to `to`, the errors it logged with
`LoggedError`, and how it ended. -/
structure Smudged where
  fs : Fs
  out : List UInt8
  logged : List String
  ending : SmudgeEnd

section

variable (env : SmudgeEnv) (sha : List UInt8 → String) (tmpDir : String)
  (localMediaPath : String → Except String Path) (linkOrCopyFromReference : Fs → Fs)
  (c : SmudgeConfig)

/-- Whether `smudge` lets `PointerSmudge` download: `filter.Allows(filename)`, unless `skip`
or `GIT_LFS_SKIP_SMUDGE`. -/
def smudgeDownloads (filename : String) (skip : Bool) : Bool :=
  if skip || c.skipSmudge then false else c.allows filename

/-- `smudge(to, ptr, filename, skip)`. -/
def smudge (ptr : Pointer) (filename : String) (skip : Bool) (fs : Fs) : Smudged :=
  match c.callbackErr with
  | some err => ⟨fs, [], [], .returned (some err)⟩
  | none =>
    let download := smudgeDownloads c filename skip
    let (fs, written, r) :=
      pointerSmudge env sha tmpDir localMediaPath linkOrCopyFromReference ptr download fs
    match r with
    | .ok () => ⟨fs, written, [], .returned none⟩
    | .error err =>
      if err = .declined ∧ download = false then ⟨fs, written ++ c.encode ptr, [], .returned none⟩
      else
        ⟨fs, written ++ c.encode ptr,
          ["Error downloading object: " ++ filename ++ " (" ++ ptr.oid ++ ")"],
          if c.skipDownloadErrors then .returned none else .exit 2⟩

end

end GitLfs.Commands
