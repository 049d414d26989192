import GitLfs.Git.Text
import GitLfs.Config.Tag
import Mathlib.Data.List.Basic

/-! # Finding the repository: `gitmedia.resolveGitDir`

At start-up `gitmedia` walks up from the working directory to the first directory with a
`.git` entry. The walk is written over bytes, with the `filepath` functions as their
documentation states them, and `recursiveResolveGitDir` is given fuel; on an absolute path it
refines a walk over the path's components.
-/

namespace GitLfs.Gitmedia

open GitLfs.Git GitLfs.Config

/-- A path: a Go string, its bytes. -/
abbrev Path := List UInt8

/-- `os.PathSeparator`, `/`. -/
def sep : UInt8 := 47

def dot : Path := [46]
def dotdot : Path := [46, 46]

/-! ### `path/filepath` -/

/-- One element of the loop of `filepath.Clean`, over the elements kept so far, the last first:
an empty element or `.` is dropped; `..` drops the element before it, or is kept at the front
of a relative path, or dropped at the root. -/
def cleanStep (rooted : Bool) (out : List Path) (e : Path) : List Path :=
  if e = [] ∨ e = dot then out
  else if e = dotdot then
    match out with
    | top :: rest => if top = dotdot then dotdot :: out else rest
    | [] => if rooted then [] else [dotdot]
  else e :: out

/-- `filepath.Clean(p)`, by the rules its documentation gives: separators are collapsed, `.`
elements dropped, each `..` drops the element before it, and `..` at the start of a rooted
path is dropped; an empty result is `.`. -/
def clean (p : Path) : Path :=
  let rooted := p.head? = some sep
  let out := ((p.splitOn sep).foldl (cleanStep rooted) []).reverse
  if rooted then sep :: [sep].intercalate out
  else if out = [] then dot else [sep].intercalate out

/-- `p` up to and including its last separator; empty when it has none. -/
def throughLastSep (p : Path) : Path := (p.reverse.dropWhile (· ≠ sep)).reverse

/-- `filepath.Base(p)`: the last element, after trailing separators are dropped. -/
def base (p : Path) : Path :=
  if p = [] then dot
  else
    let p := (p.reverse.dropWhile (· = sep)).reverse
    let last := (p.reverse.takeWhile (· ≠ sep)).reverse
    if last = [] then [sep] else last

/-- `filepath.Dir(p)`: `Clean` of `p` up to its last separator. -/
def dir (p : Path) : Path := clean (throughLastSep p)

/-- `filepath.Join(elem...)`: `Clean` of the elements from the first non-empty one, joined by
separators; empty when all are empty. -/
def join (elems : List Path) : Path :=
  match elems.dropWhile (· = []) with
  | [] => []
  | es => clean ([sep].intercalate es)

/-- `filepath.IsAbs`. -/
def isAbs (p : Path) : Bool := p.head? = some sep

/-- `filepath.Abs(p)`, with `os.Getwd` giving `wd`. -/
def abs (wd p : Path) : Path := if isAbs p then clean p else join [wd, p]

/-! ### `processDotGitFile` and `recursiveResolveGitDir` -/

/-- What `os.Stat` and a read find at a path: a directory, or a file and its bytes. -/
inductive Entry
  | dir
  | file (content : List UInt8)
  deriving DecidableEq, Repr

abbrev Fs := Path → Option Entry

/-- `gitExt`. -/
def gitExt : Path := [46, 103, 105, 116]

/-- `gitPtrPrefix`, `gitdir: `. -/
def gitPtrPrefix : Path := [103, 105, 116, 100, 105, 114, 58, 32]

/-- The bytes of `s` before the first occurrence of `p`. -/
def before (p : Path) : List UInt8 → List UInt8
  | [] => []
  | c :: cs => if p.isPrefixOf (c :: cs) then [] else c :: before p cs

/-- The error `fmt.Errorf("Git repository not found")`. -/
def notFound : String := "Git repository not found"

/-- `processDotGitFile(file)` on a file with bytes `content`, with `os.Getwd` giving `wd`:
`f.Read` of 512 bytes fails with `io.EOF` on an empty file; `strings.Split(contents,
gitPtrPrefix)[1]`, of contents that start with it, is what comes before its next occurrence. -/
def processDotGitFile (wd : Path) (content : List UInt8) : Except String (Path × Path) :=
  if content = [] then .error "EOF"
  else
    let contents := content.take 512
    if gitPtrPrefix.isPrefixOf contents then
      let d := trimSpace (before gitPtrPrefix (contents.drop gitPtrPrefix.length))
      .ok (wd, abs wd d)
    else .ok (wd, [])

/-- `recursiveResolveGitDir(dir)`, with `fuel` calls left; `none` when they run out. -/
def recursiveResolveGitDir (fs : Fs) (wd : Path) : Nat → Path → Option (Except String (Path × Path))
  | 0, _ => none
  | fuel + 1, d =>
    if (clean d).getLast? = some sep then some (.error notFound)
    else if base d = gitExt then some (.ok (dir d, d))
    else
      match fs (join [d, gitExt]) with
      | some .dir => some (.ok (d, join [d, gitExt]))
      | some (.file content) => some (processDotGitFile wd content)
      | none => recursiveResolveGitDir fs wd fuel (dir d)

/-! ### Absolute paths, by their components

A clean absolute path is `/` followed by its components joined by separators: none empty,
none `.` or `..`, none holding a separator. On such paths `Clean`, `Base`, `Dir` and `Join`
compute what one expects, and that is all the walk needs. -/

/-- A component that `filepath.Clean` keeps: not empty, not `.` or `..`. -/
def Plain (e : Path) : Prop := e ≠ [] ∧ e ≠ dot ∧ e ≠ dotdot

/-- A component of a clean absolute path. -/
structure Comp where
  bytes : Path
  ne : bytes ≠ []
  no_sep : sep ∉ bytes
  not_dot : bytes ≠ dot
  not_dotdot : bytes ≠ dotdot

theorem Comp.plain (c : Comp) : Plain c.bytes := ⟨c.ne, c.not_dot, c.not_dotdot⟩

/-- The path of components `rs`, the nearest first, each after a separator. -/
def below : List Comp → Path
  | [] => []
  | c :: rs => below rs ++ sep :: c.bytes

/-- The clean absolute path of components `rs`, the nearest first; the root is `/`. -/
def absPath : List Comp → Path
  | [] => [sep]
  | c :: rs => below (c :: rs)

/-- `.git`, as a component. -/
def gitComp : Comp := ⟨gitExt, by decide, by decide, by decide, by decide⟩

theorem intercalate_snoc (xs : List Path) (hx : xs ≠ []) (y : Path) :
    [sep].intercalate (xs ++ [y]) = [sep].intercalate xs ++ sep :: y := by
  induction xs with
  | nil => contradiction
  | cons x xs ih =>
    cases xs with
    | nil => simp [List.intercalate]
    | cons x' xs' =>
      have := ih (List.cons_ne_nil _ _)
      simp only [List.cons_append, List.intercalate, List.intersperse_cons_cons,
        List.flatten_cons] at this ⊢
      rw [this]; simp

theorem below_eq : ∀ {rs : List Comp}, rs ≠ [] →
    below rs = sep :: [sep].intercalate (rs.map Comp.bytes).reverse
  | [], h => absurd rfl h
  | [c], _ => by simp [below, List.intercalate]
  | c :: c' :: rs, _ => by
    rw [below, below_eq (List.cons_ne_nil _ _), List.map_cons _ c, List.reverse_cons,
      intercalate_snoc _ (by simp)]
    rfl

theorem absPath_eq (rs : List Comp) :
    sep :: [sep].intercalate (rs.map Comp.bytes).reverse = absPath rs := by
  cases rs with
  | nil => rfl
  | cons c rs => exact (below_eq (List.cons_ne_nil _ _)).symm

theorem below_ne_nil (c : Comp) (rs : List Comp) : below (c :: rs) ≠ [] := by simp [below]

theorem head_below (rs : List Comp) (t : Path) : (below rs ++ sep :: t).head? = some sep := by
  induction rs generalizing t with
  | nil => rfl
  | cons c rs ih => rw [below, List.append_assoc, List.cons_append]; exact ih _

theorem reverse_below (c : Comp) (rs : List Comp) :
    (below (c :: rs)).reverse = c.bytes.reverse ++ sep :: (below rs).reverse := by simp [below]

theorem ne_sep_of_mem_reverse (c : Comp) : ∀ x ∈ c.bytes.reverse, x ≠ sep :=
  fun _ hx h => c.no_sep (h ▸ List.mem_reverse.mp hx)

theorem splitOn_plain {t : Path} (ht : sep ∉ t) : t.splitOn sep = [t] :=
  List.splitOnP_eq_single _ _ fun x hx h => ht (by simpa using (beq_iff_eq.mp h) ▸ hx)

theorem splitOn_below (rs : List Comp) (t : Path) :
    (below rs ++ sep :: t).splitOn sep = [] :: (rs.map Comp.bytes).reverse ++ t.splitOn sep := by
  induction rs generalizing t with
  | nil => simp [below, List.splitOn, sep]
  | cons c rs ih =>
    rw [below, List.append_assoc, List.cons_append, ih, List.splitOn,
      List.splitOnP_first _ _ (fun x hx h => c.no_sep (by simpa using (beq_iff_eq.mp h) ▸ hx))
        sep (by simp)]
    simp [List.splitOn]

theorem foldl_cleanStep (r : Bool) : ∀ (es out : List Path), (∀ e ∈ es, e = [] ∨ Plain e) →
    es.foldl (cleanStep r) out = (es.filter (· ≠ [])).reverse ++ out
  | [], _, _ => rfl
  | e :: es, out, h => by
    have ih := foldl_cleanStep r es
    rcases h e (.head _) with rfl | ⟨h1, h2, h3⟩
    · simp [cleanStep, ih out fun x hx => h x (.tail _ hx)]
    · simp [cleanStep, h1, h2, h3, ih _ fun x hx => h x (.tail _ hx)]

theorem filter_bytes (rs : List Comp) (t : Path) :
    ((rs.map Comp.bytes).reverse ++ [t]).filter (· ≠ []) =
      (rs.map Comp.bytes).reverse ++ if t = [] then [] else [t] := by
  rw [List.filter_append, List.filter_eq_self.mpr fun e he => ?_]
  · by_cases ht : t = [] <;> simp [ht]
  · obtain ⟨c, -, rfl⟩ := List.mem_map.mp (List.mem_reverse.mp he)
    simpa using c.ne

theorem clean_below (rs : List Comp) (t : Path) (ht : sep ∉ t) (hp : t = [] ∨ Plain t) :
    clean (below rs ++ sep :: t) =
      sep :: [sep].intercalate (((rs.map Comp.bytes).reverse ++ [t]).filter (· ≠ [])) := by
  have hs := splitOn_below rs t
  rw [splitOn_plain ht] at hs
  rw [clean, head_below, hs]
  simp only [if_true, List.foldl_cons]
  rw [foldl_cleanStep]
  · simp [cleanStep]
  · intro e he
    simp only [List.mem_append, List.mem_cons, List.mem_reverse, List.mem_map,
      List.mem_singleton, List.not_mem_nil, or_false] at he
    rcases he with (rfl | ⟨c, -, rfl⟩) | rfl
    · exact .inl rfl
    · exact .inr c.plain
    · exact hp

theorem clean_below_cons (c : Comp) (rs : List Comp) :
    clean (below (c :: rs)) = below (c :: rs) := by
  conv_rhs => rw [below_eq (List.cons_ne_nil _ _), List.map_cons, List.reverse_cons]
  rw [below, clean_below rs c.bytes c.no_sep (.inr c.plain), filter_bytes, if_neg c.ne]

theorem clean_below_slash (rs : List Comp) : clean (below rs ++ [sep]) = absPath rs := by
  rw [clean_below rs [] (by simp) (.inl rfl), filter_bytes, if_pos rfl, List.append_nil,
    absPath_eq]

theorem getLast_below (c : Comp) (rs : List Comp) : (below (c :: rs)).getLast? ≠ some sep := by
  obtain h | ⟨l, b, hb⟩ := List.eq_nil_or_concat c.bytes
  · exact absurd h c.ne
  · have hm : b ∈ c.bytes := by rw [hb]; simp
    rw [below, hb, List.concat_eq_append, ← List.cons_append, ← List.append_assoc,
      List.getLast?_concat]
    exact fun h => c.no_sep (Option.some.inj h ▸ hm)

theorem base_below (c : Comp) (rs : List Comp) : base (below (c :: rs)) = c.bytes := by
  obtain h | ⟨l, b, hb⟩ := List.eq_nil_or_concat c.bytes
  · exact absurd h c.ne
  have hb' : b ≠ sep := ne_sep_of_mem_reverse c b (by simp [hb])
  have hd : (below (c :: rs)).reverse.dropWhile (· = sep) = (below (c :: rs)).reverse := by
    rw [reverse_below, hb]; simp [hb']
  have ht : (below (c :: rs)).reverse.takeWhile (· ≠ sep) = c.bytes.reverse := by
    rw [reverse_below, List.takeWhile_append_of_pos (by simpa using ne_sep_of_mem_reverse c)]
    simp
  simp only [base, if_neg (below_ne_nil c rs), hd, List.reverse_reverse, ht, if_neg c.ne]

theorem dir_below (c : Comp) (rs : List Comp) : dir (below (c :: rs)) = absPath rs := by
  rw [dir, throughLastSep, reverse_below,
    List.dropWhile_append_of_pos (by simpa using ne_sep_of_mem_reverse c)]
  simp [clean_below_slash]

theorem join_below (c : Comp) (rs : List Comp) :
    join [below (c :: rs), gitExt] = below (gitComp :: c :: rs) := by
  have h : [sep].intercalate [below (c :: rs), gitExt] = below (gitComp :: c :: rs) := by
    simp [List.intercalate, below, gitComp]
  rw [join, List.dropWhile_cons_of_neg (by simpa using below_ne_nil c rs)]
  dsimp only
  rw [h, clean_below_cons]

/-! ### The walk -/

section Walk

variable (fs : Fs) (wd : Path)

/-- What `recursiveResolveGitDir` is meant to do from a clean absolute path, over its
components, the nearest first: a directory named `.git` is the git directory, and its parent
the working directory; otherwise a `.git` below the directory ends the walk; past the last
component the repository is not found, and the root itself is never looked at. -/
def search : List Comp → Except String (Path × Path)
  | [] => .error notFound
  | c :: rs =>
    if c.bytes = gitExt then .ok (absPath rs, absPath (c :: rs))
    else
      match fs (absPath (gitComp :: c :: rs)) with
      | some .dir => .ok (absPath (c :: rs), absPath (gitComp :: c :: rs))
      | some (.file content) => processDotGitFile wd content
      | none => search rs

theorem resolve_root (n : Nat) :
    recursiveResolveGitDir fs wd (n + 1) (absPath []) = some (.error notFound) := by
  rw [recursiveResolveGitDir, if_pos (by decide)]

theorem resolve_cons (n : Nat) (c : Comp) (rs : List Comp) :
    recursiveResolveGitDir fs wd (n + 1) (absPath (c :: rs)) =
      if c.bytes = gitExt then some (.ok (absPath rs, absPath (c :: rs)))
      else match fs (absPath (gitComp :: c :: rs)) with
        | some .dir => some (.ok (absPath (c :: rs), absPath (gitComp :: c :: rs)))
        | some (.file content) => some (processDotGitFile wd content)
        | none => recursiveResolveGitDir fs wd n (absPath rs) := by
  change recursiveResolveGitDir fs wd (n + 1) (below (c :: rs)) = _
  rw [recursiveResolveGitDir, clean_below_cons, if_neg (getLast_below c rs), base_below,
    dir_below, join_below]
  rfl

/-- From a clean absolute path of `rs.length` components `recursiveResolveGitDir` returns
within `rs.length + 1` calls, with what `search` finds. -/
theorem resolve_search (k : Nat) : ∀ rs : List Comp,
    recursiveResolveGitDir fs wd (rs.length + 1 + k) (absPath rs) = some (search fs wd rs)
  | [] => by rw [List.length_nil, Nat.zero_add, Nat.add_comm, resolve_root, search]
  | c :: rs => by
    rw [List.length_cons, Nat.add_right_comm _ 1, resolve_cons, search]
    split_ifs
    · rfl
    · cases fs (absPath (gitComp :: c :: rs)) with
      | none => exact resolve_search k rs
      | some e => cases e <;> rfl

theorem recursiveResolveGitDir_dot (h : fs gitExt = none) :
    ∀ n, recursiveResolveGitDir fs wd n dot = none
  | 0 => rfl
  | n + 1 => by
    rw [recursiveResolveGitDir, if_neg (by decide), if_neg (by decide),
      show join [dot, gitExt] = gitExt by decide, h]
    exact recursiveResolveGitDir_dot h n

/-! ### A `.git` file -/

/-- The walk goes past each of the components `pre`, the nearest first, on its way up to
`rs`: none is `.git` and none has a `.git` entry. -/
def Passes (rs : List Comp) : List Comp → Prop
  | [] => True
  | c :: pre => c.bytes ≠ gitExt ∧ fs (absPath (gitComp :: c :: (pre ++ rs))) = none ∧
      Passes rs pre

instance (rs : List Comp) : DecidablePred (Passes fs rs) := fun pre => by
  induction pre <;> unfold Passes <;> infer_instance

theorem search_append (rs : List Comp) :
    ∀ pre, Passes fs rs pre → search fs wd (pre ++ rs) = search fs wd rs
  | [], _ => rfl
  | c :: pre, ⟨hc, hf, hp⟩ => by
    rw [List.cons_append, search, if_neg hc, hf]
    exact search_append rs pre hp

theorem processDotGitFile_fst (content : List UInt8) (p : Path × Path)
    (h : processDotGitFile wd content = .ok p) : p.1 = wd := by
  dsimp only [processDotGitFile] at h
  split_ifs at h <;> simp only [Except.ok.injEq, reduceCtorEq] at h <;> rw [← h]

end Walk

/-- Run from `wd`, below a directory whose `.git` is a file, the walk reads that file; what it
answers names `wd` as the working directory, whatever directory holds the file. -/
theorem resolve_gitfile (fs : Fs) (pre rs : List Comp) (c : Comp) (content : List UInt8)
    (k : Nat) (hp : Passes fs (c :: rs) pre) (hc : c.bytes ≠ gitExt)
    (hf : fs (absPath (gitComp :: c :: rs)) = some (.file content)) :
    recursiveResolveGitDir fs (absPath (pre ++ c :: rs)) ((pre ++ c :: rs).length + 1 + k)
        (absPath (pre ++ c :: rs)) =
      some (processDotGitFile (absPath (pre ++ c :: rs)) content) ∧
      ∀ p, processDotGitFile (absPath (pre ++ c :: rs)) content = .ok p →
        p.1 = absPath (pre ++ c :: rs) := by
  refine ⟨?_, processDotGitFile_fst _ content⟩
  rw [resolve_search, search_append _ _ _ _ hp, search, if_neg hc, hf]

def repoComp : Comp := ⟨ascii "repo", by decide, by decide, by decide, by decide⟩
def modComp : Comp := ⟨ascii "mod", by decide, by decide, by decide, by decide⟩
def srcComp : Comp := ⟨ascii "src", by decide, by decide, by decide, by decide⟩
/-- A submodule checked out at `/repo/mod`, whose `.git` file points to its git directory
`/repo/.git/modules/mod`. -/
def submoduleFs : Fs := fun p =>
  if p = ascii "/repo/mod/.git" then some (.file (ascii "gitdir: ../.git/modules/mod\n"))
  else none

/-- Run from `/repo/mod/src`, the submodule's working directory is taken to be
`/repo/mod/src`, and its git directory `/repo/mod/.git/modules/mod`, which does not exist. -/
theorem resolve_gitfile_submodule :
    recursiveResolveGitDir submoduleFs (ascii "/repo/mod/src") 4 (ascii "/repo/mod/src") =
      some (.ok (ascii "/repo/mod/src", ascii "/repo/mod/.git/modules/mod")) :=
  (resolve_gitfile submoduleFs [srcComp] [repoComp] modComp
    (ascii "gitdir: ../.git/modules/mod\n") 0 (by decide) (by decide) (by decide)).1.trans rfl

end GitLfs.Gitmedia
