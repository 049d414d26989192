import GitLfs.Git.Text

/-! # Reading the output of `git rev-list`

`RevListScanner` reads `git rev-list --objects` a line at a time: the line is trimmed, its
first 40 characters are hex-decoded into the oid, and what follows the 41st is the name.
`Scan` reports whether an oid was read, so a line shorter than 40 characters ends the scan
as the end of the output does. Over the lines git writes for records, the scanner gives
back every record whose name does not end in a space and whose line fits the line buffer.
-/

namespace GitLfs.Git

/-- The errors `Err()` reports: `bufio.ErrTooLong` of the line scanner, or the error of
`hex.DecodeString`. The line scanner reports the end of the output as no error. -/
inductive ScanError
  | tooLong
  | hex (e : HexError)
  deriving DecidableEq, Repr

/-- A `RevListScanner`: the output its `bufio.Scanner` has not read, and the fields that
`OID()`, `Name()` and `Err()` return. -/
structure RevListScanner where
  input : List UInt8
  oid : List UInt8
  name : List UInt8
  err : Option ScanError
  deriving DecidableEq, Repr

namespace RevListScanner

/-- A scanner over the whole output, before its first `Scan`. -/
def new (input : List UInt8) : RevListScanner := ⟨input, [], [], none⟩

/-- `scan()`: the oid, the name and the error made of the next line, and the output after
it. -/
def scan (s : RevListScanner) : List UInt8 × List UInt8 × Option ScanError × List UInt8 :=
  match scanLines s.input with
  | .eof => ([], [], none, [])
  | .tooLong => ([], [], some .tooLong, s.input)
  | .token text rest =>
    let line := trimSpace text
    if line.length < 40 then ([], [], none, rest)
    else match decodeString (line.take 40) with
      | .error e => ([], [], some (.hex e), rest)
      | .ok sha1 => (sha1, if 40 < line.length then line.drop 41 else [], none, rest)

/-- `Scan()`: `oid` and `name` are overwritten by what `scan` read, an error is kept in
`err`, and the result says whether an oid was read. -/
def Scan (s : RevListScanner) : Bool × RevListScanner :=
  match s.scan with
  | (oid, name, some e, rest) =>
    (false, { s with input := rest, oid := oid, name := name, err := some e })
  | (oid, name, none, rest) => (0 < oid.length, { s with input := rest, oid := oid, name := name })

/-- The first `n` calls of `Scan`, each with what `OID()`, `Name()` and `Err()` return after
it. -/
def scans : Nat → RevListScanner → List (Bool × List UInt8 × List UInt8 × Option ScanError)
  | 0, _ => []
  | n + 1, s => (s.Scan.1, s.Scan.2.oid, s.Scan.2.name, s.Scan.2.err) :: scans n s.Scan.2

theorem scan_oid (s : RevListScanner) :
    (s.scan.1 = [] ∨ s.scan.1.length = 20) ∧ (s.scan.2.2.1.isSome → s.scan.1 = []) := by
  unfold scan
  split
  · simp
  · simp
  · dsimp only
    split
    · simp
    · split
      · simp
      · rename_i text _ _ hlt _ sha1 hd
        have h₁ := decodeString_length hd
        have h₂ : ((trimSpace text).take 40).length = 40 := by simp; omega
        dsimp only
        exact ⟨.inr (by omega), by simp⟩

theorem Scan_reads_oid (s : RevListScanner) :
    (s.Scan.1 = true ↔ s.Scan.2.oid ≠ []) ∧
      (s.Scan.1 = true → s.Scan.2.oid.length = 20 ∧ s.Scan.2.err = s.err) := by
  have hs := scan_oid s
  unfold Scan
  rcases hsc : s.scan with ⟨oid, name, _ | e, rest⟩ <;> rw [hsc] at hs
  all_goals dsimp only at hs ⊢
  · refine ⟨by simp [List.length_pos], fun h => ⟨hs.1.resolve_left ?_, rfl⟩⟩
    simpa [List.length_pos] using h
  · simp [hs.2 rfl]

end RevListScanner

/-! ### The records git lists -/

/-- An object as `git rev-list --objects` lists it: its oid and the path it was reached by,
empty for a commit. -/
structure Record where
  oid : List UInt8
  name : List UInt8
  deriving DecidableEq, Repr

namespace Record

/-- Modelled from the spec: the line git writes for a record, the oid in lower-case hex and,
when the name is not empty, a space and the name. -/
def line (r : Record) : List UInt8 :=
  encodeToString r.oid ++ if r.name = [] then [] else 32 :: r.name

/-- The line with its newline. -/
def encode (r : Record) : List UInt8 := r.line ++ [10]

/-- The records the scanner gives back: a 20-byte oid, and a name without a newline whose
last rune is not a space, on a line that fits the line buffer. -/
structure Plain (r : Record) : Prop where
  oid : r.oid.length = 20
  newline : 10 ∉ r.name
  last : r.name = [] ∨ isSpace (decodeLastRune r.name).1 = false
  fits : r.line.length < maxScanTokenSize

instance : DecidablePred Plain := fun r =>
  decidable_of_iff (r.oid.length = 20 ∧ 10 ∉ r.name ∧
      (r.name = [] ∨ isSpace (decodeLastRune r.name).1 = false) ∧
        r.line.length < maxScanTokenSize)
    ⟨fun ⟨a, b, c, d⟩ => ⟨a, b, c, d⟩, fun ⟨a, b, c, d⟩ => ⟨a, b, c, d⟩⟩

variable {r : Record}

theorem Plain.hex_ne_nil (hr : r.Plain) : encodeToString r.oid ≠ [] := by
  rw [← List.length_pos, encodeToString_length, hr.oid]
  decide

theorem Plain.line_newline (hr : r.Plain) : 10 ∉ r.line := by
  intro h
  rcases List.mem_append.mp h with h | h
  · exact (encodeToString_plain h).2.2 rfl
  · split at h
    · exact List.not_mem_nil _ h
    · exact (List.mem_cons.mp h).elim (absurd · (by decide)) hr.newline

theorem Plain.last_line (hr : r.Plain) : isSpace (decodeLastRune r.line).1 = false := by
  by_cases hn : r.name = []
  · have hne := hr.hex_ne_nil
    have hc := encodeToString_plain (List.getLast_mem hne)
    rw [line, if_pos hn, List.append_nil, decodeLastRune_getLast hne hc.1]
    exact hc.2.1
  · rw [line, if_neg hn, decodeLastRune_append (by decide) hn]
    exact hr.last.resolve_left hn

theorem Plain.trim (hr : r.Plain) : trimSpace (dropCR r.line) = r.line := by
  obtain ⟨c, s, he⟩ := List.exists_cons_of_ne_nil hr.hex_ne_nil
  have hc := encodeToString_plain (he ▸ List.mem_cons_self c s)
  have hl : r.line = c :: (s ++ if r.name = [] then [] else 32 :: r.name) := by
    rw [line, he, List.cons_append]
  have hlast := hr.last_line
  rw [hl] at hlast ⊢
  rw [dropCR_of_last hlast, trimSpace_of_ends hc.1 hc.2.1 hlast]

theorem Plain.fields (hr : r.Plain) :
    40 ≤ r.line.length ∧ r.line.take 40 = encodeToString r.oid ∧
      (if 40 < r.line.length then r.line.drop 41 else []) = r.name := by
  have hlen : (encodeToString r.oid).length = 40 := by rw [encodeToString_length, hr.oid]
  refine ⟨by simp [line, hlen], List.take_left' hlen, ?_⟩
  by_cases hn : r.name = []
  · simp [line, hn, hlen]
  · have hsp : (encodeToString r.oid ++ [32]).length = 41 := by simp [hlen]
    simp only [line, if_neg hn, List.length_append, hlen, List.length_cons]
    rw [if_pos (by omega), ← List.singleton_append, ← List.append_assoc, List.drop_left' hsp]

/-- A blob reached by the path "a". -/
def blob : Record := ⟨List.replicate 20 0xab, [97]⟩

/-- A commit, listed without a name. -/
def commit : Record := ⟨List.replicate 20 0x5c, []⟩

/-- A blob whose path ends in a space. -/
def trailingSpace : Record := ⟨List.replicate 20 0xab, [97, 32]⟩

end Record

namespace RevListScanner

variable {r : Record} {s : RevListScanner}

theorem Scan_encode (hr : r.Plain) (rest : List UInt8) (hs : s.input = r.encode ++ rest) :
    s.Scan = (true, { s with input := rest, oid := r.oid, name := r.name }) := by
  obtain ⟨hlen, htake, hname⟩ := hr.fields
  have hin : s.input = r.line ++ 10 :: rest := by rw [hs, Record.encode, List.append_assoc]; rfl
  simp [Scan, scan, hin, scanLines_line hr.line_newline hr.fits, hr.trim, Nat.not_lt.mpr hlen,
    htake, decodeString_encodeToString, hname, hr.oid]

theorem scans_records {rs : List Record} (h : ∀ r ∈ rs, r.Plain) :
    ∀ s : RevListScanner, s.input = rs.flatMap Record.encode →
      s.scans (rs.length + 1) =
        rs.map (fun r => (true, r.oid, r.name, s.err)) ++ [(false, [], [], s.err)] := by
  induction rs with
  | nil =>
    intro s hs
    simp [scans, Scan, scan, hs, scanLines]
  | cons r rs ih =>
    intro s hs
    have hscan := Scan_encode (h r (List.mem_cons_self r rs)) _ (by rw [hs, List.flatMap_cons])
    rw [List.length_cons, scans, hscan,
      ih (fun r hr => h r (List.mem_cons_of_mem _ hr)) _ rfl]
    rfl

/-- A scanner over the lines git writes for plain records returns true once per record, in
order, with `OID()` and `Name()` the record's, and then false with `Err()` nil. -/
theorem scans_encoded_records {rs : List Record} (h : ∀ r ∈ rs, r.Plain) :
    (new (rs.flatMap Record.encode)).scans (rs.length + 1) =
      rs.map (fun r => (true, r.oid, r.name, none)) ++ [(false, [], [], none)] :=
  scans_records h _ rfl

theorem scans_blob_and_commit :
    (∀ r ∈ [Record.blob, Record.commit], r.Plain) ∧
      (new ([Record.blob, Record.commit].flatMap Record.encode)).scans 3 =
        [Record.blob, Record.commit].map (fun r => (true, r.oid, r.name, none)) ++
          [(false, [], [], none)] :=
  have h : ∀ r ∈ [Record.blob, Record.commit], r.Plain := by decide
  ⟨h, scans_encoded_records h⟩

/-- A name that ends in a space is read back without it: `TrimSpace` cuts the line. -/
theorem trailing_space_trimmed :
    (new Record.trailingSpace.encode).scans 2 =
      [(true, Record.trailingSpace.oid, [97], none), (false, [], [], none)] := by
  decide

/-- A line that trims to fewer than 40 characters makes `Scan` return false with the error
it had, the output after the line still unread. -/
theorem short_line_ends_scan (l rest : List UInt8) (hs : s.input = l ++ 10 :: rest)
    (hl : 10 ∉ l) (hlen : l.length < maxScanTokenSize)
    (hshort : (trimSpace (dropCR l)).length < 40) :
    s.Scan = (false, { s with input := rest, oid := [], name := [] }) := by
  simp [Scan, scan, hs, scanLines_line hl hlen, hshort]

/-- An empty line before a blob's line: the first `Scan` returns false with `Err()` nil, and
the blob's line, which a scanner reads, is left unread. -/
theorem blank_line_hides_blob :
    (new (10 :: Record.blob.encode)).Scan = (false, new Record.blob.encode) ∧
      (new Record.blob.encode).Scan.1 = true :=
  ⟨short_line_ends_scan [] Record.blob.encode (by rfl) (by decide) (by decide) (by decide),
    by decide⟩

end RevListScanner

end GitLfs.Git
