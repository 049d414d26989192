import Mathlib.Data.List.Nodup
import GitLfs.Git.Text

/-! # The `.gitattributes` of `git lfs migrate import`

For each root tree of the history it rewrites, `migrate import` reads the tree's
`.gitattributes` blob into an ordered set of lines, adds the patterns it tracks, and writes
the set back as a blob, one line each. The sets read are cached by the hex of the blob's oid.
-/

namespace GitLfs.Commands

open GitLfs.Git

/-- `tools.OrderedSet`, which is not in the source: its elements in the order they were first
added, each once. -/
structure OrderedSet where
  items : List (List UInt8)
  nodup : items.Nodup

namespace OrderedSet

/-- `NewOrderedSet()`. -/
def empty : OrderedSet := ⟨[], List.nodup_nil⟩

/-- `Add`: a new element goes last, one already there is not added again. -/
def add (s : OrderedSet) (x : List UInt8) : OrderedSet :=
  if h : x ∈ s.items then s
  else ⟨s.items ++ [x], List.nodup_append.mpr ⟨s.nodup, List.nodup_singleton x, by simpa using h⟩⟩

/-- `Union`: the elements of `s`, then those of `t` not in `s`, in order. -/
def union (s t : OrderedSet) : OrderedSet := t.items.foldl add s

theorem ext {s t : OrderedSet} (h : s.items = t.items) : s = t := by
  cases s; cases t; cases h; rfl

theorem add_of_not_mem {s : OrderedSet} {x : List UInt8} (h : x ∉ s.items) :
    (s.add x).items = s.items ++ [x] := by
  simp [add, h]

theorem mem_add {s : OrderedSet} {x y : List UInt8} : y ∈ (s.add x).items ↔ y ∈ s.items ∨ y = x := by
  unfold add
  split
  · rename_i h
    constructor
    · exact Or.inl
    · rintro (h' | rfl)
      · exact h'
      · exact h
  · simp

theorem mem_foldl_add : ∀ {s : OrderedSet} {xs : List (List UInt8)} {y : List UInt8},
    y ∈ (xs.foldl add s).items ↔ y ∈ s.items ∨ y ∈ xs
  | s, [], y => by simp
  | s, x :: xs, y => by
    rw [List.foldl_cons, mem_foldl_add, mem_add, List.mem_cons]
    tauto

theorem foldl_add_of_subset : ∀ {s : OrderedSet} {xs : List (List UInt8)},
    (∀ x ∈ xs, x ∈ s.items) → xs.foldl add s = s
  | s, [], _ => rfl
  | s, x :: xs, h => by
    rw [List.foldl_cons, show s.add x = s from dif_pos (h x (List.mem_cons_self x xs))]
    exact foldl_add_of_subset fun y hy => h y (List.mem_cons_of_mem x hy)

theorem union_union_self (s t : OrderedSet) : (s.union t).union t = s.union t :=
  foldl_add_of_subset fun _ hx => mem_foldl_add.mpr (Or.inr hx)

end OrderedSet

/-- `trackedToBlob(db, patterns)`: the bytes of the blob it writes, each pattern followed by a
newline. -/
def trackedToBlob (patterns : OrderedSet) : List UInt8 :=
  patterns.items.flatMap (· ++ [10])

/-- The loop `for scanner.Scan() { attrs.Add(scanner.Text()) }` over a blob's bytes, and
`scanner.Err()` after it. -/
def scanAttrs (attrs : OrderedSet) (input : List UInt8) : Except String OrderedSet :=
  match _h : scanLines input with
  | .token line rest => scanAttrs (attrs.add line) rest
  | .eof => .ok attrs
  | .tooLong => .error "bufio.Scanner: token too long"
termination_by input.length
decreasing_by exact scanLines_shorter _h

/-- A line that a `.gitattributes` blob holds and gives back as it is: no newline in it, no
`\r` at its end, and shorter than the scanner's buffer. -/
structure AttrLine (line : List UInt8) : Prop where
  no_newline : 10 ∉ line
  no_cr : line.getLast? ≠ some 13
  short : line.length < maxScanTokenSize

theorem scanAttrs_token {attrs : OrderedSet} {input line rest : List UInt8}
    (h : scanLines input = .token line rest) :
    scanAttrs attrs input = scanAttrs (attrs.add line) rest := by
  rw [scanAttrs]
  split <;> rename_i hs <;> rw [h] at hs <;> cases hs
  rfl

theorem scanAttrs_nil (attrs : OrderedSet) : scanAttrs attrs [] = .ok attrs := by
  rw [scanAttrs]
  rfl

theorem scanAttrs_line {attrs : OrderedSet} {line rest : List UInt8} (h : AttrLine line) :
    scanAttrs attrs (line ++ 10 :: rest) = scanAttrs (attrs.add line) rest := by
  rw [scanAttrs_token (scanLines_line h.no_newline h.short), dropCR_eq_self h.no_cr]

theorem scanAttrs_flatMap : ∀ {attrs : OrderedSet} {lines : List (List UInt8)},
    (∀ l ∈ lines, AttrLine l) →
      scanAttrs attrs (lines.flatMap (· ++ [10])) = .ok (lines.foldl OrderedSet.add attrs)
  | attrs, [], _ => scanAttrs_nil attrs
  | attrs, l :: lines, h => by
    rw [List.flatMap_cons, List.append_assoc, List.singleton_append,
      scanAttrs_line (h l (List.mem_cons_self l lines)), List.foldl_cons]
    exact scanAttrs_flatMap fun l' hl' => h l' (List.mem_cons_of_mem l hl')

theorem foldl_add_empty : ∀ {lines : List (List UInt8)}, lines.Nodup → ∀ (acc : OrderedSet),
    (∀ l ∈ lines, l ∉ acc.items) → (lines.foldl OrderedSet.add acc).items = acc.items ++ lines
  | [], _, acc, _ => by simp
  | l :: lines, hn, acc, h => by
    have hl : l ∉ lines := (List.nodup_cons.mp hn).1
    rw [List.foldl_cons, foldl_add_empty (List.nodup_cons.mp hn).2,
      OrderedSet.add_of_not_mem (h l (List.mem_cons_self l lines))]
    · simp
    · intro l' hl' hmem
      rcases OrderedSet.mem_add.mp hmem with h' | rfl
      · exact h l' (List.mem_cons_of_mem l hl') h'
      · exact hl hl'

theorem scanAttrs_trackedToBlob {attrs : OrderedSet} (h : ∀ l ∈ attrs.items, AttrLine l) :
    scanAttrs OrderedSet.empty (trackedToBlob attrs) = .ok attrs := by
  rw [trackedToBlob, scanAttrs_flatMap h]
  congr 1
  apply OrderedSet.ext
  rw [foldl_add_empty attrs.nodup OrderedSet.empty nofun]
  rfl

theorem scanAttrs_items {acc s : OrderedSet} {input : List UInt8}
    (h : scanAttrs acc input = .ok s) :
    ∀ l ∈ s.items, l ∈ acc.items ∨ (10 ∉ l ∧ l.length < maxScanTokenSize) := by
  rw [scanAttrs] at h
  split at h
  · rename_i line rest hs
    intro l hl
    rcases scanAttrs_items h l hl with h' | h'
    · rcases OrderedSet.mem_add.mp h' with h'' | rfl
      · exact Or.inl h''
      · exact Or.inr (scanLines_token hs)
    · exact Or.inr h'
  · cases h
    exact fun l hl => Or.inl hl
  · cases h
termination_by input.length
decreasing_by
  simp_wf
  exact scanLines_shorter ‹_›

/-- The patterns `*.psd` and `*.bin`. -/
def psdLine : List UInt8 := [42, 46, 112, 115, 100]
def binLine : List UInt8 := [42, 46, 98, 105, 110]
def psdAttrs : OrderedSet := ⟨[psdLine], List.nodup_singleton _⟩
def binAttrs : OrderedSet := ⟨[binLine], List.nodup_singleton _⟩

/-- A line ending in `\r\r` loses one `\r` at each run: the blob is not a fixed point. -/
example : scanAttrs OrderedSet.empty [97, 13, 13, 10] =
    .ok ⟨[[97, 13]], List.nodup_singleton _⟩ := by
  rw [scanAttrs_token (by decide : scanLines [97, 13, 13, 10] = .token [97, 13] []),
    scanAttrs_nil]
  rfl

/-- An entry of a tree, as `trackedFromAttrs` reads it: its name, its oid, and whether it is
a blob. -/
structure TreeEntry where
  name : String
  oid : List UInt8
  isBlob : Bool

/-- The oid of the first entry named `.gitattributes`, in any case, that is a blob.
`strings.ToLower` is not in the source and is given as `toLower`. -/
def attrsOid (toLower : String → String) (entries : List TreeEntry) : Option (List UInt8) :=
  (entries.find? fun e => toLower e.name == ".gitattributes" && e.isBlob).map (·.oid)

/-- `trackedFromAttrs(db, t)` with `attrsCache`, keyed by the hex of the blob's oid: the cache
afterwards and the set read. `db.Blob` gives a blob's bytes or its error. -/
def trackedFromAttrs (toLower : String → String) (db : List UInt8 → Except String (List UInt8))
    (cache : List (List UInt8 × OrderedSet)) (entries : List TreeEntry) :
    List (List UInt8 × OrderedSet) × Except String OrderedSet :=
  match attrsOid toLower entries with
  | none => (cache, .ok OrderedSet.empty)
  | some oid =>
    let sha1 := encodeToString oid
    match cache.lookup sha1 with
    | some s => (cache, .ok s)
    | none =>
      match db oid with
      | .error err => (cache, .error err)
      | .ok contents =>
        match scanAttrs OrderedSet.empty contents with
        | .error err => (cache, .error err)
        | .ok attrs => ((sha1, attrs) :: cache, .ok attrs)

/-- `ours` of the tree callback: the patterns tracked from `--include` and `--exclude`, or,
when there are none, those of the extensions of the files migrated. -/
def oursOf (tracked exts : OrderedSet) : OrderedSet :=
  if tracked.items.length = 0 then exts else tracked

/-- The `TreeCallbackFn` of `migrate import`, as far as `.gitattributes` goes: for the root
tree, the cache afterwards and the bytes of the blob merged in as `.gitattributes`; another
tree is returned as it is (`none`). `Clone` keeps the cached set from the union; the model's
sets are values. -/
def attrsCallback (toLower : String → String) (db : List UInt8 → Except String (List UInt8))
    (cache : List (List UInt8 × OrderedSet)) (tracked exts : OrderedSet) (path : String)
    (entries : List TreeEntry) :
    List (List UInt8 × OrderedSet) × Except String (Option (List UInt8)) :=
  if path ≠ "/" then (cache, .ok none)
  else
    let r := trackedFromAttrs toLower db cache entries
    (r.1, r.2.map fun theirs => some (trackedToBlob (theirs.union (oursOf tracked exts))))

/-- `trackedFromAttrs` called for each root tree in turn: the sets read. -/
def attrsRun (toLower : String → String) (db : List UInt8 → Except String (List UInt8))
    (cache : List (List UInt8 × OrderedSet)) : List (List TreeEntry) → List (Except String OrderedSet)
  | [] => []
  | t :: ts =>
    let r := trackedFromAttrs toLower db cache t
    r.2 :: attrsRun toLower db r.1 ts

/-- What the cache holds: under the hex of an oid, the set its blob reads as. -/
def CacheSound (db : List UInt8 → Except String (List UInt8))
    (cache : List (List UInt8 × OrderedSet)) : Prop :=
  ∀ k s, cache.lookup k = some s →
    ∃ oid contents, encodeToString oid = k ∧ db oid = .ok contents ∧
      scanAttrs OrderedSet.empty contents = .ok s

section

variable {db : List UInt8 → Except String (List UInt8)}

theorem encodeToString_injective {a b : List UInt8} (h : encodeToString a = encodeToString b) :
    a = b := by
  have := decodeString_encodeToString a
  rw [h, decodeString_encodeToString] at this
  exact (Except.ok.inj this).symm

theorem trackedFromAttrs_cached (toLower : String → String)
    {cache : List (List UInt8 × OrderedSet)} (hc : CacheSound db cache) (entries : List TreeEntry) :
    (trackedFromAttrs toLower db cache entries).2 = (trackedFromAttrs toLower db [] entries).2 ∧
      CacheSound db (trackedFromAttrs toLower db cache entries).1 := by
  unfold trackedFromAttrs
  cases attrsOid toLower entries with
  | none => exact ⟨rfl, hc⟩
  | some oid =>
    dsimp only
    cases hk : cache.lookup (encodeToString oid) with
    | some s =>
      -- a hit: the cached set is the one the blob reads as
      obtain ⟨oid', contents, he, hdb, hs⟩ := hc _ s hk
      obtain rfl := encodeToString_injective he
      refine ⟨?_, hc⟩
      simp [hdb, hs]
    | none =>
      simp only [List.lookup_nil]
      cases hdb : db oid with
      | error err => exact ⟨rfl, hc⟩
      | ok contents =>
        dsimp only
        cases hs : scanAttrs OrderedSet.empty contents with
        | error err => exact ⟨rfl, hc⟩
        | ok attrs =>
          refine ⟨rfl, fun k s hks => ?_⟩
          simp only [List.lookup_cons] at hks
          split at hks
          · rename_i heq
            cases hks
            exact ⟨oid, contents, (beq_iff_eq.mp heq).symm, hdb, hs⟩
          · exact hc k s hks

theorem trackedFromAttrs_items {toLower : String → String} {entries : List TreeEntry}
    {s : OrderedSet} (h : (trackedFromAttrs toLower db [] entries).2 = .ok s) :
    ∀ l ∈ s.items, 10 ∉ l ∧ l.length < maxScanTokenSize := by
  unfold trackedFromAttrs at h
  cases ho : attrsOid toLower entries with
  | none =>
    simp only [ho, Except.ok.injEq] at h
    subst h
    exact nofun
  | some oid =>
    simp only [ho, List.lookup_nil] at h
    cases hdb : db oid with
    | error err => simp [hdb] at h
    | ok contents =>
      cases hs : scanAttrs OrderedSet.empty contents with
      | error err => simp [hdb, hs] at h
      | ok attrs =>
        simp only [hdb, hs, Except.ok.injEq] at h
        subst h
        exact fun l hl => (scanAttrs_items hs l hl).resolve_left nofun

/-- Migrate's step on `.gitattributes` is idempotent: when a later root tree holds, as its
`.gitattributes`, the blob written for an earlier one, the callback writes the same blob
again, provided no line read ends in `\r` and the tracked patterns are lines a blob gives
back. The read of the later tree may hit the cache. -/
theorem attrs_idempotent (toLower : String → String) {cache cache' : List (List UInt8 × OrderedSet)}
    {tracked exts theirs : OrderedSet} {entries entries' : List TreeEntry} {oid : List UInt8}
    (hc : CacheSound db cache)
    (hr : trackedFromAttrs toLower db cache entries = (cache', .ok theirs))
    (hours : ∀ l ∈ (oursOf tracked exts).items, AttrLine l)
    (hcr : ∀ l ∈ theirs.items, l.getLast? ≠ some 13)
    (ho : attrsOid toLower entries' = some oid)
    (hdb : db oid = .ok (trackedToBlob (theirs.union (oursOf tracked exts)))) :
    (attrsCallback toLower db cache tracked exts "/" entries).2 =
        .ok (some (trackedToBlob (theirs.union (oursOf tracked exts)))) ∧
      (attrsCallback toLower db cache' tracked exts "/" entries').2 =
        .ok (some (trackedToBlob (theirs.union (oursOf tracked exts)))) := by
  obtain ⟨h₁, h₂⟩ := trackedFromAttrs_cached toLower hc entries
  rw [hr] at h₁ h₂
  -- the lines read are plain, and so are the tracked ones
  have hplain : ∀ l ∈ (theirs.union (oursOf tracked exts)).items, AttrLine l := by
    intro l hl
    rcases OrderedSet.mem_foldl_add.mp hl with h | h
    · obtain ⟨hn, hs⟩ := trackedFromAttrs_items h₁.symm l h
      exact ⟨hn, hcr l h, hs⟩
    · exact hours l h
  have hread : (trackedFromAttrs toLower db cache' entries').2 =
      .ok (theirs.union (oursOf tracked exts)) := by
    rw [(trackedFromAttrs_cached toLower h₂ entries').1]
    unfold trackedFromAttrs
    simp only [ho, List.lookup_nil, hdb, scanAttrs_trackedToBlob hplain]
  refine ⟨by simp [attrsCallback, hr, Except.map], ?_⟩
  simp [attrsCallback, hread, Except.map, OrderedSet.union_union_self]

/-- The cache never changes a result: over every sequence of root trees, from an empty cache,
`trackedFromAttrs` gives each tree the set an uncached read gives it, and a failed read
caches nothing. The object database is content-addressed: an oid's bytes never change. -/
theorem attrsCache_transparent (toLower : String → String) : ∀ {cache : List (List UInt8 × OrderedSet)}
    (trees : List (List TreeEntry)), CacheSound db cache →
      attrsRun toLower db cache trees = trees.map fun t => (trackedFromAttrs toLower db [] t).2
  | _, [], _ => rfl
  | cache, t :: ts, hc => by
    obtain ⟨h₁, h₂⟩ := trackedFromAttrs_cached toLower hc t
    rw [attrsRun, List.map_cons, h₁, attrsCache_transparent toLower ts h₂]

end

/-- A store holding a `.gitattributes` of `*.psd`, and the one migrate writes from it when it
tracks `*.bin`; a root tree with each. -/
def attrsBlobOid : List UInt8 := [0x8c, 0x3a]
def mergedBlobOid : List UInt8 := [0x5e, 0x11]
def migrateStore (oid : List UInt8) : Except String (List UInt8) :=
  if oid = attrsBlobOid then .ok (trackedToBlob psdAttrs)
  else if oid = mergedBlobOid then .ok (trackedToBlob (psdAttrs.union binAttrs))
  else .error "object not found"
def attrsTree : List TreeEntry := [⟨".gitattributes", attrsBlobOid, true⟩, ⟨"a.psd", [1], true⟩]
def mergedTree : List TreeEntry := [⟨".gitattributes", mergedBlobOid, true⟩, ⟨"a.psd", [1], true⟩]

theorem attrs_idempotent_psd :
    (CacheSound migrateStore [] ∧
      trackedFromAttrs id migrateStore [] attrsTree =
        ([(encodeToString attrsBlobOid, psdAttrs)], .ok psdAttrs) ∧
      (∀ l ∈ (oursOf binAttrs OrderedSet.empty).items, AttrLine l) ∧
      (∀ l ∈ psdAttrs.items, l.getLast? ≠ some 13) ∧
      attrsOid id mergedTree = some mergedBlobOid ∧
      migrateStore mergedBlobOid =
        .ok (trackedToBlob (psdAttrs.union (oursOf binAttrs OrderedSet.empty)))) ∧
    (attrsCallback id migrateStore [] binAttrs OrderedSet.empty "/" attrsTree).2 =
        .ok (some (trackedToBlob (psdAttrs.union (oursOf binAttrs OrderedSet.empty)))) ∧
      (attrsCallback id migrateStore [(encodeToString attrsBlobOid, psdAttrs)] binAttrs
        OrderedSet.empty "/" mergedTree).2 =
        .ok (some (trackedToBlob (psdAttrs.union (oursOf binAttrs OrderedSet.empty)))) :=
  have hc : CacheSound migrateStore [] := fun _ _ h => nomatch h
  have hpsd : ∀ l ∈ psdAttrs.items, AttrLine l := fun l hl => by
    rw [show psdAttrs.items = [psdLine] from rfl, List.mem_singleton] at hl
    subst hl
    exact ⟨by decide, by decide, by decide⟩
  have hours : ∀ l ∈ (oursOf binAttrs OrderedSet.empty).items, AttrLine l := fun l hl => by
    rw [show (oursOf binAttrs OrderedSet.empty).items = [binLine] from rfl, List.mem_singleton] at hl
    subst hl
    exact ⟨by decide, by decide, by decide⟩
  have hr : trackedFromAttrs id migrateStore [] attrsTree =
      ([(encodeToString attrsBlobOid, psdAttrs)], .ok psdAttrs) := by
    unfold trackedFromAttrs
    simp only [show attrsOid id attrsTree = some attrsBlobOid from rfl, List.lookup_nil,
      show migrateStore attrsBlobOid = .ok (trackedToBlob psdAttrs) from rfl,
      scanAttrs_trackedToBlob hpsd]
  have hcr : ∀ l ∈ psdAttrs.items, l.getLast? ≠ some 13 := fun l hl => (hpsd l hl).no_cr
  ⟨⟨hc, hr, hours, hcr, rfl, rfl⟩, attrs_idempotent id hc hr hours hcr rfl rfl⟩

/-- Three root trees: the first and the last share their `.gitattributes`. -/
theorem attrsCache_transparent_shared :
    CacheSound migrateStore [] ∧
      attrsRun id migrateStore [] [attrsTree, mergedTree, attrsTree] =
        [attrsTree, mergedTree, attrsTree].map fun t =>
          (trackedFromAttrs id migrateStore [] t).2 :=
  have h : CacheSound migrateStore [] := fun _ _ h => nomatch h
  ⟨h, attrsCache_transparent id [attrsTree, mergedTree, attrsTree] h⟩

end GitLfs.Commands
