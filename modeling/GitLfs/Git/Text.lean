import Mathlib.Data.List.Basic

/-! # Go's text primitives over bytes

What `RevListScanner` calls on the output of `git rev-list`: `bufio.Scanner` with
`ScanLines`, `strings.TrimSpace` (with `utf8.DecodeRune`, `utf8.DecodeLastRune` and
`unicode.IsSpace`), and `hex.DecodeString`. A Go string is its bytes; a rune is its code
point.
-/

namespace GitLfs.Git

/-! ### UTF-8 -/

/-- `utf8.RuneError`, what an invalid byte decodes to. -/
def runeError : Nat := 0xFFFD

/-- The length of the sequence a first byte of two or more announces, and the range its
second byte must lie in: the `first` table and `acceptRanges` of package `utf8`. -/
def lead (b : UInt8) : Option (Nat × UInt8 × UInt8) :=
  if b < 0xC2 then none
  else if b < 0xE0 then some (2, 0x80, 0xBF)
  else if b = 0xE0 then some (3, 0xA0, 0xBF)
  else if b = 0xED then some (3, 0x80, 0x9F)
  else if b < 0xF0 then some (3, 0x80, 0xBF)
  else if b = 0xF0 then some (4, 0x90, 0xBF)
  else if b < 0xF4 then some (4, 0x80, 0xBF)
  else if b = 0xF4 then some (4, 0x80, 0x8F)
  else none

/-- A continuation byte, `0x80` to `0xBF`; every other byte is a `utf8.RuneStart`. -/
def cont (b : UInt8) : Bool := 0x80 ≤ b && b ≤ 0xBF

theorem cont_of_lt {c : UInt8} (hc : c < 0x80) : cont c = false := by
  have h : ¬(0x80 : UInt8) ≤ c := fun h => Nat.lt_irrefl _ (Nat.lt_of_lt_of_le hc h)
  simp [cont, h]

/-- `utf8.DecodeRune(p)`: the first rune of `p` and its width. An invalid or short sequence
is `RuneError` of width 1. -/
def decodeRune : List UInt8 → Nat × Nat
  | [] => (runeError, 0)
  | b0 :: rest =>
    if b0 < 0x80 then (b0.toNat, 1)
    else match lead b0, rest with
      | some (sz, lo, hi), b1 :: rest =>
        if b1 < lo ∨ hi < b1 then (runeError, 1)
        else if sz = 2 then ((b0.toNat % 32) * 64 + b1.toNat % 64, 2)
        else match rest with
          | b2 :: rest =>
            if !cont b2 then (runeError, 1)
            else if sz = 3 then
              ((b0.toNat % 16) * 4096 + (b1.toNat % 64) * 64 + b2.toNat % 64, 3)
            else match rest with
              | b3 :: _ =>
                if !cont b3 then (runeError, 1)
                else ((b0.toNat % 8) * 262144 + (b1.toNat % 64) * 4096 +
                  (b2.toNat % 64) * 64 + b3.toNat % 64, 4)
              | [] => (runeError, 1)
          | [] => (runeError, 1)
      | _, _ => (runeError, 1)

theorem decodeRune_ascii {b : UInt8} {s : List UInt8} (h : b < 0x80) :
    decodeRune (b :: s) = (b.toNat, 1) :=
  if_pos h

theorem decodeRune_single {b : UInt8} (h : ¬b < 0x80) : decodeRune [b] = (runeError, 1) :=
  (if_neg h).trans (by cases lead b with | none => rfl | some _ => rfl)

/-- `utf8.DecodeLastRune(p)`: the last rune of `p` and its width. It looks back at most
three bytes before the last for a rune start, and reports `RuneError` of width 1 unless the
rune decoded from there ends exactly at the end of `p`. Written over `p` reversed: `b` is
the last byte and `bs` those before it, the nearest first. -/
def decodeLastRune (p : List UInt8) : Nat × Nat :=
  match p.reverse with
  | [] => (runeError, 0)
  | b :: bs =>
    if b < 0x80 then (b.toNat, 1)
    else match (bs.take 3).findIdx? (fun c => !cont c) with
      | none => (runeError, 1)
      | some j =>
        let d := decodeRune ((b :: bs).take (j + 2)).reverse
        if d.2 = j + 2 then d else (runeError, 1)

theorem decodeLastRune_ascii {p : List UInt8} {b : UInt8} (h : b < 0x80) :
    decodeLastRune (p ++ [b]) = (b.toNat, 1) := by
  simp [decodeLastRune, h]

theorem decodeLastRune_getLast {s : List UInt8} (hs : s ≠ []) (h : s.getLast hs < 0x80) :
    decodeLastRune s = ((s.getLast hs).toNat, 1) := by
  conv_lhs => rw [← List.dropLast_append_getLast hs]
  exact decodeLastRune_ascii h

theorem decodeLastRune_append {pre name : List UInt8} {c : UInt8} (hc : c < 0x80)
    (hn : name ≠ []) : decodeLastRune (pre ++ c :: name) = decodeLastRune name := by
  obtain ⟨L, b, rfl⟩ : ∃ L b, name = L ++ [b] :=
    ⟨name.dropLast, name.getLast hn, (List.dropLast_append_getLast hn).symm⟩
  have hr : (pre ++ c :: (L ++ [b])).reverse = b :: (L.reverse ++ c :: pre.reverse) := by simp
  have hr' : (L ++ [b]).reverse = b :: L.reverse := by simp
  unfold decodeLastRune
  rw [hr, hr']
  dsimp only
  rw [List.take_append_eq_append_take, List.findIdx?_append]
  split
  · rfl
  cases h : (L.reverse.take 3).findIdx? (fun c => !cont c) with
  | some j =>
    -- the rune start lies within the name
    obtain ⟨hj, -⟩ := List.findIdx?_eq_some_iff_getElem.mp h
    have hj' : j + 1 ≤ L.reverse.length := by simp at hj ⊢; omega
    simp only [Option.or_some, List.take_succ_cons, List.take_append_of_le_length hj']
  | none =>
    rcases Nat.lt_or_ge L.length 3 with hl | hl
    · -- the name is too short: the start found is the ASCII byte before it
      obtain ⟨k, hk⟩ : ∃ k, 3 - L.reverse.length = k + 1 := ⟨2 - L.length, by simp; omega⟩
      have hfind : ((c :: pre.reverse).take (3 - L.reverse.length)).findIdx? (fun c => !cont c) =
          some 0 := by
        rw [hk, List.take_succ_cons, List.findIdx?_cons]
        simp [cont_of_lt hc]
      have hlen : (L.reverse.take 3).length = L.length := by simp; omega
      have hcut : (b :: (L.reverse ++ c :: pre.reverse)).take (L.length + 2) =
          b :: (L.reverse ++ [c]) := by
        simp [List.take_append_eq_append_take]
      simp only [hfind, Option.none_or, Option.map_some', hlen, Nat.zero_add, hcut]
      simp [decodeRune_ascii hc]
    · have h0 : 3 - L.reverse.length = 0 := by simp; omega
      simp only [h0, List.take_zero, List.findIdx?_nil, Option.map_none', Option.none_or,
        Option.or_none]


/-- `unicode.IsSpace`. -/
def isSpace (r : Nat) : Bool :=
  if r ≤ 0xFF then
    r == 0x09 || r == 0x0A || r == 0x0B || r == 0x0C || r == 0x0D || r == 0x20 || r == 0x85 ||
      r == 0xA0
  else
    r == 0x1680 || (0x2000 ≤ r && r ≤ 0x200A) || r == 0x2028 || r == 0x2029 || r == 0x202F ||
      r == 0x205F || r == 0x3000

/-! ### `strings.TrimSpace` -/

/-- `strings.TrimLeftFunc(s, unicode.IsSpace)`: leading runes are decoded from the front,
an ASCII byte as itself. `fuel` bounds the runes looked at; the length of `s` is enough. -/
def trimLeftSpace : Nat → List UInt8 → List UInt8
  | 0, s => s
  | fuel + 1, s =>
    match s with
    | [] => []
    | b :: _ =>
      let d := if b < 0x80 then (b.toNat, 1) else decodeRune s
      if isSpace d.1 then trimLeftSpace fuel (s.drop d.2) else s

theorem trimLeftSpace_of_first {c : UInt8} {s : List UInt8} {n : Nat} (hc : c < 0x80)
    (h : isSpace c.toNat = false) : trimLeftSpace (n + 1) (c :: s) = c :: s := by
  simp [trimLeftSpace, hc, h]

/-- `lastIndexFunc(s, unicode.IsSpace, false)`: the start of the last rune of `s` that is not
a space, the runes read from the end with `DecodeLastRune`. -/
def lastNonSpace : Nat → List UInt8 → Option Nat
  | 0, _ => none
  | fuel + 1, s =>
    match s with
    | [] => none
    | _ :: _ =>
      let d := decodeLastRune s
      if isSpace d.1 then lastNonSpace fuel (s.take (s.length - d.2)) else some (s.length - d.2)

theorem lastNonSpace_of_last {s : List UInt8} (hs : s ≠ [])
    (h : isSpace (decodeLastRune s).1 = false) :
    lastNonSpace s.length s = some (s.length - (decodeLastRune s).2) := by
  obtain ⟨x, xs, rfl⟩ := List.exists_cons_of_ne_nil hs
  simp [lastNonSpace, h]

/-- `s[0:i+w]`, where `w` is the width of the rune at `i` read from the front: 1 for an
ASCII byte, else what `utf8.DecodeRuneInString(s[i:])` reads. -/
def cutAfterRune (s : List UInt8) (i : Nat) : List UInt8 :=
  match s.drop i with
  | b :: _ => if b < 0x80 then s.take (i + 1) else s.take (i + (decodeRune (s.drop i)).2)
  | [] => s.take (i + 1)

theorem cutAfterRune_last (L : List UInt8) (b : UInt8) :
    cutAfterRune (L ++ [b]) ((L ++ [b]).length - (decodeLastRune (L ++ [b])).2) = L ++ [b] := by
  have hlen : (L ++ [b]).length = L.length + 1 := by simp
  have hlast : (L ++ [b]).drop L.length = [b] := by simp
  -- the cases where the width is 1: the last byte alone
  have hone : (decodeLastRune (L ++ [b])).2 = 1 →
      cutAfterRune (L ++ [b]) ((L ++ [b]).length - 1) = L ++ [b] := by
    intro _
    rw [hlen, Nat.add_sub_cancel, cutAfterRune, hlast]
    by_cases hb : b < 0x80
    · simp [hb]
    · simp [hb, decodeRune_single hb]
  by_cases hb : b < 0x80
  · rw [decodeLastRune_ascii hb]; exact hone (by rw [decodeLastRune_ascii hb])
  · have hrev : (L ++ [b]).reverse = b :: L.reverse := by simp
    cases hf : (L.reverse.take 3).findIdx? (fun c => !cont c) with
    | none =>
      have he : decodeLastRune (L ++ [b]) = (runeError, 1) := by simp [decodeLastRune, hb, hf]
      rw [he]
      exact hone (by rw [he])
    | some j =>
      have hj : j < L.length := by
        obtain ⟨h, -⟩ := List.findIdx?_eq_some_iff_getElem.mp hf
        simp only [List.length_take, List.length_reverse] at h
        omega
      by_cases hd : (decodeRune ((b :: L.reverse).take (j + 2)).reverse).2 = j + 2
      · have he : decodeLastRune (L ++ [b]) =
            decodeRune ((b :: L.reverse).take (j + 2)).reverse := by
          simp only [decodeLastRune, hrev, hb, if_false, hf, hd, if_true]
        have hdrop : (L ++ [b]).drop ((L ++ [b]).length - (j + 2)) =
            ((b :: L.reverse).take (j + 2)).reverse := by
          rw [List.reverse_take]
          simp
        rw [he, hd, cutAfterRune, hdrop]
        obtain ⟨c, cs, hc⟩ : ∃ c cs, ((b :: L.reverse).take (j + 2)).reverse = c :: cs :=
          List.exists_cons_of_ne_nil (by simp)
        rw [hc] at hd ⊢
        have hca : ¬c < 0x80 := fun hca => by rw [decodeRune_ascii hca] at hd; omega
        simp only [hca, if_false, hd, hlen]
        rw [Nat.sub_add_cancel (by omega)]
        exact List.take_of_length_le (by simp)
      · have he : decodeLastRune (L ++ [b]) = (runeError, 1) := by
          simp only [decodeLastRune, hrev, hb, if_false, hf, hd]
        rw [he]
        exact hone (by rw [he])

/-- `strings.TrimRightFunc(s, unicode.IsSpace)`: `s` is cut after the rune that starts where
`lastNonSpace` says, or is emptied if every rune is a space. -/
def trimRightSpace (s : List UInt8) : List UInt8 :=
  match lastNonSpace s.length s with
  | none => []
  | some i => cutAfterRune s i

theorem trimRightSpace_of_last {s : List UInt8} (hs : s ≠ [])
    (h : isSpace (decodeLastRune s).1 = false) : trimRightSpace s = s := by
  obtain ⟨L, b, rfl⟩ : ∃ L b, s = L ++ [b] :=
    ⟨s.dropLast, s.getLast hs, (List.dropLast_append_getLast hs).symm⟩
  rw [trimRightSpace, lastNonSpace_of_last hs h]
  exact cutAfterRune_last L b

/-- `strings.TrimSpace(s)`. -/
def trimSpace (s : List UInt8) : List UInt8 := trimRightSpace (trimLeftSpace s.length s)

theorem trimSpace_of_ends {c : UInt8} {s : List UInt8} (hc : c < 0x80)
    (h₁ : isSpace c.toNat = false) (h₂ : isSpace (decodeLastRune (c :: s)).1 = false) :
    trimSpace (c :: s) = c :: s := by
  rw [trimSpace, List.length_cons, trimLeftSpace_of_first hc h₁,
    trimRightSpace_of_last (by simp) h₂]

/-! ### `hex.DecodeString` -/

/-- `fromHexChar`: the value of a hex digit of either case. -/
def fromHexChar (c : UInt8) : Option Nat :=
  if 48 ≤ c ∧ c ≤ 57 then some (c.toNat - 48)
  else if 97 ≤ c ∧ c ≤ 102 then some (c.toNat - 87)
  else if 65 ≤ c ∧ c ≤ 70 then some (c.toNat - 55)
  else none

/-- The errors of `hex.DecodeString`: `ErrLength` and `InvalidByteError`. -/
inductive HexError
  | length
  | invalidByte (b : UInt8)
  deriving DecidableEq, Repr

/-- The loop of `hex.Decode`, two digits to a byte: `(a << 4) | b` is `a * 16 + b`. -/
def decodePairs : List UInt8 → Except HexError (List UInt8)
  | a :: b :: rest =>
    match fromHexChar a, fromHexChar b with
    | none, _ => .error (.invalidByte a)
    | some _, none => .error (.invalidByte b)
    | some x, some y => (decodePairs rest).map (UInt8.ofNat (x * 16 + y) :: ·)
  | _ => .ok []

/-- `hex.DecodeString(s)`. -/
def decodeString (s : List UInt8) : Except HexError (List UInt8) :=
  if s.length % 2 = 1 then .error .length else decodePairs s



theorem decodePairs_length : ∀ {s out : List UInt8}, decodePairs s = .ok out →
    out.length = s.length / 2
  | [], _, h => by cases h; rfl
  | [_], _, h => by cases h; simp
  | a :: b :: rest, out, h => by
    simp only [decodePairs] at h
    split at h
    · cases h
    · cases h
    · cases hr : decodePairs rest with
      | error e => simp [hr, Except.map] at h
      | ok o =>
        simp only [hr, Except.map, Except.ok.injEq] at h
        subst h
        simp only [List.length_cons, decodePairs_length hr]
        omega

theorem decodeString_length {s out : List UInt8} (h : decodeString s = .ok out) :
    2 * out.length = s.length := by
  unfold decodeString at h
  split at h
  · cases h
  · rw [decodePairs_length h]; omega

/-- A hex digit of `hex.Encode`'s `hextable`, `"0123456789abcdef"`: lower case. -/
def hexDigit (n : Nat) : UInt8 :=
  if n < 10 then UInt8.ofNat (48 + n) else UInt8.ofNat (87 + n)

/-- `hex.EncodeToString(src)`: each byte as its high digit (`v >> 4`), then its low digit
(`v & 0x0f`). -/
def encodeToString (src : List UInt8) : List UInt8 :=
  src.flatMap fun v => [hexDigit (v.toNat / 16), hexDigit (v.toNat % 16)]

@[simp] theorem encodeToString_nil : encodeToString [] = [] := rfl

@[simp] theorem encodeToString_cons (v : UInt8) (src : List UInt8) :
    encodeToString (v :: src) =
      hexDigit (v.toNat / 16) :: hexDigit (v.toNat % 16) :: encodeToString src := rfl

theorem encodeToString_length (src : List UInt8) :
    (encodeToString src).length = 2 * src.length := by
  induction src with
  | nil => rfl
  | cons v src ih => simp [ih]; omega

theorem hexDigit_spec {n : Nat} (h : n < 16) :
    hexDigit n < 0x80 ∧ isSpace (hexDigit n).toNat = false ∧ hexDigit n ≠ 10 ∧
      fromHexChar (hexDigit n) = some n := by
  have all : ∀ d : Fin 16, hexDigit d < 0x80 ∧ isSpace (hexDigit d).toNat = false ∧
      hexDigit d ≠ 10 ∧ fromHexChar (hexDigit d) = some d := by decide
  exact all ⟨n, h⟩

theorem ofNat_halves (v : UInt8) : UInt8.ofNat (v.toNat / 16 * 16 + v.toNat % 16) = v := by
  rw [Nat.div_add_mod']
  exact UInt8.eq_of_val_eq (Fin.ext (Nat.mod_eq_of_lt v.toNat_lt_size))

theorem decodePairs_encodeToString (src : List UInt8) :
    decodePairs (encodeToString src) = .ok src := by
  induction src with
  | nil => rfl
  | cons v src ih =>
    have hv := v.toNat_lt_size
    have hi := (hexDigit_spec (n := v.toNat / 16) (by simp [UInt8.size] at hv; omega)).2.2.2
    have lo := (hexDigit_spec (n := v.toNat % 16) (Nat.mod_lt _ (by decide))).2.2.2
    rw [encodeToString_cons, decodePairs, hi, lo, ih]
    exact congrArg (fun v => Except.ok (v :: src)) (ofNat_halves v)

theorem decodeString_encodeToString (src : List UInt8) :
    decodeString (encodeToString src) = .ok src := by
  simp [decodeString, encodeToString_length, decodePairs_encodeToString]

theorem encodeToString_plain {src : List UInt8} {c : UInt8} (h : c ∈ encodeToString src) :
    c < 0x80 ∧ isSpace c.toNat = false ∧ c ≠ 10 := by
  obtain ⟨v, -, hv⟩ := List.mem_flatMap.mp h
  have hv' := v.toNat_lt_size
  simp only [List.mem_cons, List.mem_singleton, List.not_mem_nil, or_false] at hv
  rcases hv with rfl | rfl
  · exact (hexDigit_spec (by simp [UInt8.size] at hv'; omega)).elim fun a b => ⟨a, b.1, b.2.1⟩
  · exact (hexDigit_spec (Nat.mod_lt _ (by decide))).elim fun a b => ⟨a, b.1, b.2.1⟩

/-! ### `bufio.Scanner` with `ScanLines` -/

/-- `bufio.MaxScanTokenSize`: a line and its newline must fit in a buffer of this size. -/
def maxScanTokenSize : Nat := 64 * 1024

/-- `dropCR`. -/
def dropCR (line : List UInt8) : List UInt8 :=
  if line.getLast? = some 13 then line.dropLast else line

/-- What a `Scan` of the `bufio.Scanner` makes of the output it has not read: the next line,
without its newline and a `\r` before it, and the output after it; the end of the output;
or `ErrTooLong`, when no newline is within the first `MaxScanTokenSize` bytes. -/
inductive Lines
  | token (line rest : List UInt8)
  | eof
  | tooLong
  deriving DecidableEq, Repr

/-- `Scan` with `ScanLines` over the unread output. -/
def scanLines (input : List UInt8) : Lines :=
  match input.span (· != 10) with
  | (line, _ :: rest) =>
    if maxScanTokenSize ≤ line.length then .tooLong else .token (dropCR line) rest
  | (_, []) =>
    if input = [] then .eof
    else if maxScanTokenSize ≤ input.length then .tooLong
    else .token (dropCR input) []

theorem dropCR_eq_self {line : List UInt8} (h : line.getLast? ≠ some 13) : dropCR line = line :=
  if_neg h

theorem dropCR_of_last {s : List UInt8} (h : isSpace (decodeLastRune s).1 = false) :
    dropCR s = s := by
  rcases List.eq_nil_or_concat s with rfl | ⟨L, b, rfl⟩
  · rfl
  · rw [List.concat_eq_append] at h ⊢
    have hb : b ≠ 13 := by
      rintro rfl
      rw [decodeLastRune_ascii (p := L) (b := 13) (by decide)] at h
      exact absurd h (by decide)
    simp [dropCR, hb]

theorem span_line {line rest : List UInt8} (h : 10 ∉ line) :
    (line ++ 10 :: rest).span (· != 10) = (line, 10 :: rest) := by
  have hp : ∀ a ∈ line, (a != 10) = true := fun a ha =>
    bne_iff_ne.mpr (ne_of_mem_of_not_mem ha h)
  rw [List.span_eq_take_drop, List.takeWhile_append_of_pos hp, List.dropWhile_append_of_pos hp]
  simp

theorem scanLines_line {line rest : List UInt8} (h : 10 ∉ line)
    (hlen : line.length < maxScanTokenSize) :
    scanLines (line ++ 10 :: rest) = .token (dropCR line) rest := by
  rw [scanLines, span_line h]
  simp [Nat.not_le.mpr hlen]

theorem dropCR_sublist (line : List UInt8) : (dropCR line).Sublist line := by
  unfold dropCR
  split
  · exact List.dropLast_sublist line
  · exact List.Sublist.refl line

theorem scanLines_token {input line rest : List UInt8} (h : scanLines input = .token line rest) :
    10 ∉ line ∧ line.length < maxScanTokenSize := by
  unfold scanLines at h
  split at h
  · rename_i l b r heq
    split at h
    · cases h
    · cases h
      rw [List.span_eq_take_drop, Prod.mk.injEq] at heq
      refine ⟨fun hm => ?_, ?_⟩
      · have := List.mem_takeWhile_imp (heq.1 ▸ (dropCR_sublist l).subset hm)
        exact absurd this (by decide)
      · have := (dropCR_sublist l).length_le
        omega
  · rename_i l heq
    split at h
    · cases h
    · split at h
      · cases h
      · cases h
        rw [List.span_eq_take_drop, Prod.mk.injEq] at heq
        refine ⟨fun hm => ?_, ?_⟩
        · have := List.dropWhile_eq_nil_iff.mp heq.2 10 ((dropCR_sublist input).subset hm)
          exact absurd this (by decide)
        · have := (dropCR_sublist input).length_le
          omega

theorem scanLines_shorter {input line rest : List UInt8} (h : scanLines input = .token line rest) :
    rest.length < input.length := by
  unfold scanLines at h
  split at h
  · rename_i l b r heq
    split at h
    · cases h
    · cases h
      have hl := congrArg List.length (List.takeWhile_append_dropWhile (· != 10) input)
      rw [List.span_eq_take_drop, Prod.mk.injEq] at heq
      rw [List.length_append, heq.2, List.length_cons] at hl
      omega
  · split at h
    · cases h
    · split at h
      · cases h
      · cases h
        rename_i hne _
        exact List.length_pos.mpr hne

end GitLfs.Git
