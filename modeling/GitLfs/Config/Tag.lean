import GitLfs.Git.Text

/-! # Struct tags, as `config.parseTag` reads them

`parseTag` finds the entries of a struct tag with the regular expression
`((\w+:"[^"]*")\b?)+`, splits each match at its first colon, picks the environment by the
name before it, and unquotes the rest with `strconv.Unquote`. A Go string is its bytes.
-/

namespace GitLfs.Config

open GitLfs.Git

/-- The bytes of an ASCII string. -/
def ascii (s : String) : List UInt8 := s.toList.map fun c => c.toNat.toUInt8

/-- The errors of `Unmarshal` and `parseTag`, each with what its message is built from. -/
inductive ConfigError
  | nonPointer (typ : String)
  | invalidTag (tag : List UInt8)
  | errSyntax
  | unsupported (field typ : String)
  deriving DecidableEq, Repr

/-- The messages. `%q` of a field name, an identifier, is the name in quotes; so is `%q` of a
tag of printable ASCII without quotes or backslashes, the only kind the source writes. -/
def ConfigError.message : ConfigError → String
  | .nonPointer typ => "lfs/config: unable to parse non-pointer type of " ++ typ
  | .invalidTag tag =>
    "config: invalid struct tag \"" ++ String.mk (tag.map fun b => Char.ofNat b.toNat) ++ "\""
  | .errSyntax => "invalid syntax"
  | .unsupported field typ =>
    "lfs/config: unsupported target type for field \"" ++ field ++ "\": " ++ typ

/-! ### `strconv.Unquote` -/

/-- `utf8.MaxRune`. -/
def maxRune : Nat := 0x10FFFF

/-- `utf8.EncodeRune`: the UTF-8 bytes of a rune; a surrogate half or a value past `MaxRune`
is written as `RuneError`. -/
def encodeRune (r : Nat) : List UInt8 :=
  if r < 0x80 then [UInt8.ofNat r]
  else if r < 0x800 then [UInt8.ofNat (0xC0 + r / 64), UInt8.ofNat (0x80 + r % 64)]
  else
    let r := if maxRune < r ∨ (0xD800 ≤ r ∧ r ≤ 0xDFFF) then runeError else r
    if r < 0x10000 then
      [UInt8.ofNat (0xE0 + r / 4096), UInt8.ofNat (0x80 + r / 64 % 64),
        UInt8.ofNat (0x80 + r % 64)]
    else
      [UInt8.ofNat (0xF0 + r / 262144), UInt8.ofNat (0x80 + r / 4096 % 64),
        UInt8.ofNat (0x80 + r / 64 % 64), UInt8.ofNat (0x80 + r % 64)]

/-- The value of the next `n` hex digits, as `UnquoteChar` reads them after `\x`, `\u` and
`\U`, and the bytes after them. Its `unhex` is the `fromHexChar` of `hex`. -/
def readHex : Nat → Nat → List UInt8 → Option (Nat × List UInt8)
  | 0, v, s => some (v, s)
  | n + 1, v, b :: s => (fromHexChar b).bind fun x => readHex n (v * 16 + x) s
  | _ + 1, _, [] => none

/-- An octal digit. -/
def octal (b : UInt8) : Option Nat := if 48 ≤ b ∧ b ≤ 55 then some (b.toNat - 48) else none

/-- The escapes `\a \b \f \n \r \t \v`. -/
def simpleEscape : UInt8 → Option Nat
  | 97 => some 7
  | 98 => some 8
  | 102 => some 12
  | 110 => some 10
  | 114 => some 13
  | 116 => some 9
  | 118 => some 11
  | _ => none

/-- The value of the escape `\e` and the bytes after it, in `UnquoteChar`. -/
def unquoteEscape (quote e : UInt8) (s : List UInt8) : Option (Nat × Bool × List UInt8) :=
  match simpleEscape e with
  | some v => some (v, false, s)
  | none =>
    if e = 120 then (readHex 2 0 s).map fun (v, t) => (v, false, t)
    else if e = 117 ∨ e = 85 then
      (readHex (if e = 117 then 4 else 8) 0 s).bind fun (v, t) =>
        if maxRune < v then none else some (v, true, t)
    else if 48 ≤ e ∧ e ≤ 55 then
      match s with
      | a :: b :: t =>
        (octal a).bind fun x => (octal b).bind fun y =>
          if 255 < ((e.toNat - 48) * 8 + x) * 8 + y then none
          else some (((e.toNat - 48) * 8 + x) * 8 + y, false, t)
      | _ => none
    else if e = 92 then some (92, false, s)
    else if (e = 39 ∨ e = 34) ∧ e = quote then some (e.toNat, false, s)
    else none

/-- `strconv.UnquoteChar(s, quote)`: the value at the front of `s`, whether it is a rune to
write as UTF-8 (`multibyte`), and the bytes after it; `none` is `ErrSyntax`. `Unquote` calls it
only on bytes that are left. -/
def unquoteChar (quote : UInt8) : List UInt8 → Option (Nat × Bool × List UInt8)
  | [] => none
  | c :: s =>
    if c = quote ∧ (quote = 39 ∨ quote = 34) then none
    else if 0x80 ≤ c then some ((decodeRune (c :: s)).1, true, (c :: s).drop (decodeRune (c :: s)).2)
    else if c ≠ 92 then some (c.toNat, false, s)
    else match s with
      | [] => none
      | e :: s => unquoteEscape quote e s

theorem forall_mem_ite {α : Type} {P : α → Prop} {c : Prop} [Decidable c] {a b : Option α}
    (ha : ∀ x ∈ a, P x) (hb : ∀ x ∈ b, P x) : ∀ x ∈ (if c then a else b), P x := by
  split <;> assumption

theorem readHex_length : ∀ {n v s v' t}, readHex n v s = some (v', t) → t.length + n = s.length
  | 0, _, _, _, _, h => by cases h; rfl
  | _ + 1, _, [], _, _, h => by cases h
  | n + 1, v, b :: s, v', t, h => by
    simp only [readHex, Option.bind_eq_some] at h
    obtain ⟨x, -, h⟩ := h
    have := readHex_length h
    simp only [List.length_cons]; omega

theorem lead_lo {b : UInt8} {sz : Nat} {lo hi : UInt8} (h : lead b = some (sz, lo, hi)) :
    0x80 ≤ lo := by
  have key : ∀ p ∈ lead b, (0x80 : UInt8) ≤ p.2.1 := by
    unfold lead
    repeat' apply forall_mem_ite
    all_goals intro p hp; cases hp <;> decide
  exact key _ h

theorem takeWhile_high_cons {x : UInt8} (s : List UInt8) (h : 0x80 ≤ x) :
    ((x :: s).takeWhile fun y => 0x80 ≤ y).length =
      1 + (s.takeWhile fun y => 0x80 ≤ y).length := by
  rw [List.takeWhile_cons_of_pos (by simpa using h), List.length_cons, Nat.add_comm]

theorem decodeRune_width (b : UInt8) (s : List UInt8) :
    1 ≤ (decodeRune (b :: s)).2 ∧
      (decodeRune (b :: s)).2 ≤ 1 + (s.takeWhile fun x => 0x80 ≤ x).length := by
  by_cases hb : b < 0x80
  · rw [decodeRune_ascii hb]; simp
  dsimp only [decodeRune]
  rw [if_neg hb]
  rcases hl : lead b with _ | ⟨sz, lo, hi⟩
  · simp
  rcases s with _ | ⟨b1, s⟩
  · simp
  dsimp only
  by_cases h1 : b1 < lo ∨ hi < b1
  · simp [h1]
  have hb1 : (0x80 : UInt8) ≤ b1 := UInt8.le_trans (lead_lo hl) (UInt8.not_lt.mp (not_or.mp h1).1)
  rw [if_neg h1, takeWhile_high_cons s hb1]
  by_cases h2 : sz = 2
  · simp [h2]; omega
  rw [if_neg h2]
  rcases s with _ | ⟨b2, s⟩
  · simp
  dsimp only
  by_cases h3 : cont b2 = true
  · have hb2 : (0x80 : UInt8) ≤ b2 := by simp [cont] at h3; exact h3.1
    rw [takeWhile_high_cons s hb2]
    simp only [h3, Bool.not_true, Bool.false_eq_true, if_false]
    by_cases h4 : sz = 3
    · simp [h4]; omega
    rw [if_neg h4]
    rcases s with _ | ⟨b3, s⟩
    · simp
    dsimp only
    by_cases h5 : cont b3 = true
    · have hb3 : (0x80 : UInt8) ≤ b3 := by simp [cont] at h5; exact h5.1
      rw [takeWhile_high_cons s hb3]
      simp [h5]; omega
    · simp [h5]
  · simp [h3]

theorem unquoteEscape_tail {q e : UInt8} {s : List UInt8} :
    ∀ p ∈ unquoteEscape q e s, p.2.2.length ≤ s.length := by
  unfold unquoteEscape
  split
  · intro p hp; cases hp; exact le_refl _
  repeat' apply forall_mem_ite
  · intro p hp
    obtain ⟨_, hr, rfl⟩ := Option.map_eq_some'.mp hp
    have := readHex_length hr; dsimp only; omega
  · intro p hp
    obtain ⟨⟨_, _⟩, hr, he⟩ := Option.bind_eq_some.mp hp
    have := readHex_length hr
    revert he; dsimp only; split <;> intro he <;> cases he; dsimp only; omega
  · split
    · intro p hp
      simp only [Option.mem_def, Option.bind_eq_some] at hp
      obtain ⟨_, -, _, -, hp⟩ := hp
      revert hp; split <;> intro hp <;> cases hp; simp only [List.length_cons]; omega
    · intro p hp; cases hp
  all_goals intro p hp; cases hp <;> exact le_refl _

theorem unquoteChar_shorter {q : UInt8} {s t : List UInt8} {v : Nat} {m : Bool}
    (h : unquoteChar q s = some (v, m, t)) : t.length < s.length := by
  rcases s with _ | ⟨c, s⟩
  · cases h
  simp only [unquoteChar] at h
  split_ifs at h
  · cases h; have := (decodeRune_width c s).1; simp; omega
  · cases h; simp
  · split at h
    · cases h
    · have : t.length ≤ _ := unquoteEscape_tail _ h; simp; omega

/-- The loop of `Unquote` over the bytes between the quotes. -/
def unquoteLoop (quote : UInt8) (s : List UInt8) : Option (List UInt8) :=
  if s = [] then some []
  else match _h : unquoteChar quote s with
    | none => none
    | some (c, multibyte, t) =>
      if quote = 39 ∧ t ≠ [] then none
      else (unquoteLoop quote t).map
        ((if c < 0x80 ∨ !multibyte then [UInt8.ofNat c] else encodeRune c) ++ ·)
termination_by s.length
decreasing_by exact unquoteChar_shorter _h

/-- `strconv.Unquote(s)`; `none` is `ErrSyntax`. -/
def unquote : List UInt8 → Option (List UInt8)
  | quote :: rest =>
    if rest.getLast? ≠ some quote then none
    else
      let body := rest.dropLast
      if quote = 96 then if 96 ∈ body then none else some (body.filter (· ≠ 13))
      else if quote ≠ 34 ∧ quote ≠ 39 then none
      else if 10 ∈ body then none
      else if 92 ∉ body ∧ quote ∉ body ∧ (quote = 34 ∨ ((decodeRune body).2 = body.length ∧
          ((decodeRune body).2 ≠ 1 ∨ (decodeRune body).1 ≠ runeError))) then some body
      else unquoteLoop quote body
  | [] => none

theorem takeWhile_high_le (v w : List UInt8) :
    ((v ++ 34 :: w).takeWhile fun y => 0x80 ≤ y).length ≤ v.length := by
  induction v with
  | nil => simp [List.takeWhile_cons]
  | cons x v ih =>
    by_cases hx : (0x80 : UInt8) ≤ x
    · rw [List.cons_append, takeWhile_high_cons _ hx, List.length_cons]; omega
    · simp [List.takeWhile_cons, hx]

theorem unquoteChar_plain {c : UInt8} {v w : List UInt8} (hc : c ≠ 34 ∧ c ≠ 92) :
    ∃ r m k, k ≤ v.length ∧ unquoteChar 34 (c :: (v ++ 34 :: w)) = some (r, m, v.drop k ++ 34 :: w) := by
  by_cases hh : (0x80 : UInt8) ≤ c
  · have hw := decodeRune_width c (v ++ 34 :: w)
    have hle := takeWhile_high_le v w
    refine ⟨(decodeRune (c :: (v ++ 34 :: w))).1, true, (decodeRune (c :: (v ++ 34 :: w))).2 - 1,
      by omega, ?_⟩
    simp only [unquoteChar, hc.1, false_and, if_false, hh, if_true, Option.some.injEq, true_and]
    obtain ⟨k, hk⟩ : ∃ k, (decodeRune (c :: (v ++ 34 :: w))).2 = k + 1 := ⟨_, (Nat.succ_pred_eq_of_pos hw.1).symm⟩
    rw [hk, List.drop_succ_cons, Nat.add_sub_cancel, List.drop_append_of_le_length (by omega)]
  · refine ⟨c.toNat, false, 0, Nat.zero_le _, ?_⟩
    simp [unquoteChar, hc.1, hc.2, hh]

theorem unquoteLoop_quote (w : List UInt8) (v : List UInt8) (hv : ∀ b ∈ v, b ≠ 34 ∧ b ≠ 92) :
    unquoteLoop 34 (v ++ 34 :: w) = none := by
  induction' hn : v.length using Nat.strong_induction_on with n ih generalizing v
  rw [unquoteLoop, if_neg (by simp)]
  rcases v with _ | ⟨c, v⟩
  · simp [unquoteChar]
  obtain ⟨r, m, k, hk, hc⟩ := unquoteChar_plain (w := w) (v := v) ⟨(hv c (.head _)).1, (hv c (.head _)).2⟩
  split
  · rfl
  · rename_i c' m' t hc'
    rw [List.cons_append, hc, Option.some.injEq, Prod.mk.injEq, Prod.mk.injEq] at hc'
    obtain ⟨-, -, rfl⟩ := hc'
    rw [if_neg (fun h => absurd h.1 (by decide)),
      ih _ (by rw [List.length_drop]; simp at hn; omega) (v.drop k) (fun b hb => hv b (.tail _ (List.mem_of_mem_drop hb))) rfl]
    rfl

theorem unquote_plain {v : List UInt8} (hv : ∀ b ∈ v, b ≠ 34 ∧ b ≠ 92 ∧ b ≠ 10) :
    unquote (34 :: (v ++ [34])) = some v := by
  have h34 : 34 ∉ v := fun h => (hv 34 h).1 rfl
  have h92 : 92 ∉ v := fun h => (hv 92 h).2.1 rfl
  have h10 : 10 ∉ v := fun h => (hv 10 h).2.2 rfl
  simp [unquote, h34, h92, h10]

theorem unquote_touching {v m : List UInt8} (hv : ∀ b ∈ v, b ≠ 34 ∧ b ≠ 92 ∧ b ≠ 10)
    (hm : m ≠ []) : unquote (34 :: (v ++ 34 :: m)) = none := by
  have hb : (v ++ 34 :: m).dropLast = v ++ 34 :: m.dropLast := by
    rw [List.dropLast_append_of_ne_nil _ (List.cons_ne_nil _ _), List.dropLast_cons_of_ne_nil hm]
  have h34 : (34 : UInt8) ∈ v ++ 34 :: m.dropLast := by simp
  simp only [unquote, hb, h34, not_true_eq_false, false_and, and_false, if_false,
    show ¬(34 : UInt8) = 96 by decide, show ¬((34 : UInt8) ≠ 34 ∧ (34 : UInt8) ≠ 39) by decide]
  split_ifs
  · rfl
  · rfl
  · exact unquoteLoop_quote _ v fun b hb => ⟨(hv b hb).1, (hv b hb).2.1⟩

/-! ### The regular expression `((\w+:"[^"]*")\b?)+` -/

/-- `\w`: an ASCII letter, digit or underscore. -/
def isWord (b : UInt8) : Bool :=
  (48 ≤ b && b ≤ 57) || (65 ≤ b && b ≤ 90) || (97 ≤ b && b ≤ 122) || b == 95

/-- One `\w+:"[^"]*"` at the front of `s`: the bytes it matches, and the rest. As `:` is not a
word byte, `\w+` can only end where the run of word bytes does, and `[^"]*` only at the next
quote, so there is at most one match. -/
def unitAt (s : List UInt8) : Option (List UInt8 × List UInt8) :=
  match s.span isWord with
  | (name@(_ :: _), 58 :: 34 :: r) =>
    match r.span (· != 34) with
    | (value, 34 :: rest) => some (name ++ 58 :: 34 :: (value ++ [34]), rest)
    | _ => none
  | _ => none

theorem span_eq_append {p : UInt8 → Bool} {s a b : List UInt8} (h : s.span p = (a, b)) :
    s = a ++ b := by
  rw [List.span_eq_take_drop, Prod.mk.injEq] at h
  rw [← h.1, ← h.2, List.takeWhile_append_dropWhile]

theorem span_append_stop {p : UInt8 → Bool} {a b : List UInt8} {c : UInt8}
    (ha : ∀ x ∈ a, p x = true) (hc : p c = false) : (a ++ c :: b).span p = (a, c :: b) := by
  rw [List.span_eq_take_drop, List.takeWhile_append_of_pos ha, List.dropWhile_append_of_pos ha]
  simp [hc]


theorem unitAt_append {s u rest : List UInt8} (h : unitAt s = some (u, rest)) :
    s = u ++ rest ∧ ∃ name r, (∀ b ∈ name, isWord b = true) ∧ u = name ++ 58 :: r := by
  unfold unitAt at h
  split at h
  · rename_i hd tl r hs
    split at h
    · rename_i value rest' hr
      cases h
      refine ⟨by rw [span_eq_append hs, span_eq_append hr]; simp, hd :: tl, _, fun b hb => ?_, rfl⟩
      rw [List.span_eq_take_drop, Prod.mk.injEq] at hs
      exact List.mem_takeWhile_imp (hs.1 ▸ hb)
    · cases h
  · cases h

/-- The match of the whole expression at the front of `s`: the `+` takes as many entries as
follow one another. The `\b?` matches the empty string and changes no match. -/
def chainAt (s : List UInt8) : Option (List UInt8 × List UInt8) :=
  match _h : unitAt s with
  | none => none
  | some (u, rest) =>
    match chainAt rest with
    | none => some (u, rest)
    | some (v, rest') => some (u ++ v, rest')
termination_by s.length
decreasing_by
  obtain ⟨rfl, -, _, _, rfl⟩ := unitAt_append _h
  simp only [List.length_append, List.length_cons]; omega

theorem chainAt_none {s : List UInt8} (h : unitAt s = none) : chainAt s = none := by
  rw [chainAt]; split
  · rfl
  · rename_i heq; rw [h] at heq; cases heq

theorem chainAt_unit {s u rest : List UInt8} (h : unitAt s = some (u, rest)) :
    chainAt s = match chainAt rest with
      | none => some (u, rest)
      | some (v, rest') => some (u ++ v, rest') := by
  rw [chainAt]; split
  · rename_i heq; rw [h] at heq; cases heq
  · rename_i heq; rw [h] at heq; cases heq; rfl

theorem chainAt_append {s m rest : List UInt8} (h : chainAt s = some (m, rest)) :
    s = m ++ rest ∧ ∃ name r, (∀ b ∈ name, isWord b = true) ∧ m = name ++ 58 :: r := by
  induction s using chainAt.induct generalizing m rest with
  | case1 s hu => rw [chainAt_none hu] at h; cases h
  | case2 s u r hu hr => rw [chainAt_unit hu, hr] at h; cases h; exact unitAt_append hu
  | case3 s u r hu v r' hr ih =>
    rw [chainAt_unit hu, hr] at h; cases h
    obtain ⟨rfl, name, w, hn, rfl⟩ := unitAt_append hu
    exact ⟨by rw [(ih hr).1]; simp, name, w ++ v, hn, by simp⟩

/-- `tagRe.FindAllString(s, -1)`: the leftmost match, then the leftmost match in what follows
it, and so on. -/
def findAll (s : List UInt8) : List (List UInt8) :=
  match s with
  | [] => []
  | b :: t =>
    match _h : chainAt (b :: t) with
    | some (m, rest) => m :: findAll rest
    | none => findAll t
termination_by s.length
decreasing_by
  · obtain ⟨hs, _, _, -, rfl⟩ := chainAt_append _h
    rw [hs]; simp only [List.length_append, List.length_cons]; omega
  · simp

theorem findAll_some {b : UInt8} {t m rest : List UInt8} (h : chainAt (b :: t) = some (m, rest)) :
    findAll (b :: t) = m :: findAll rest := by
  rw [findAll]; split
  · rename_i heq; rw [h] at heq; cases heq; rfl
  · rename_i heq; rw [h] at heq; cases heq

theorem findAll_none {b : UInt8} {t : List UInt8} (h : chainAt (b :: t) = none) :
    findAll (b :: t) = findAll t := by
  rw [findAll]; split
  · rename_i heq; rw [h] at heq; cases heq
  · rfl

theorem mem_findAll {s m : List UInt8} (h : m ∈ findAll s) :
    ∃ name r, (∀ b ∈ name, isWord b = true) ∧ m = name ++ 58 :: r := by
  induction s using findAll.induct with
  | case1 => simp [findAll] at h
  | case2 b t m' rest hc ih =>
    rw [findAll_some hc, List.mem_cons] at h
    rcases h with rfl | h
    · exact (chainAt_append hc).2
    · exact ih h
  | case3 b t hc ih => rw [findAll_none hc] at h; exact ih h

/-! ### `parseTag` -/

/-- `strings.SplitN(s, ":", 2)`. -/
def splitColon (s : List UInt8) : List (List UInt8) :=
  match s.span (· != 58) with
  | (a, []) => [a]
  | (a, _ :: b) => [a, b]

/-- `strings.ToLower` of the name before the colon of a match, which is its first `\w+`: only
ASCII letters change. -/
def toLower (s : List UInt8) : List UInt8 :=
  s.map fun b => if 65 ≤ b ∧ b ≤ 90 then b + 32 else b

/-- Which environment a lookup reads: `c.Git`, `c.Os`, or `emptyEnv` for any other name, such
as `json`. -/
inductive Store
  | git
  | os
  | empty
  deriving DecidableEq, Repr

/-- The switch of `parseTag` on the lower-cased name. -/
def storeOf (name : List UInt8) : Store :=
  if toLower name = ascii "git" then .git else if toLower name = ascii "os" then .os else .empty

/-- A `lookup`: a key, and the environment to look it up in. -/
structure Lookup where
  key : List UInt8
  store : Store
  deriving DecidableEq, Repr

/-- The body of the loop of `parseTag` for one match. -/
def parsePart (tag part : List UInt8) : Except ConfigError Lookup :=
  match splitColon part with
  | [name, quoted] =>
    match unquote quoted with
    | some key => .ok ⟨key, storeOf name⟩
    | none => .error .errSyntax
  | _ => .error (.invalidTag tag)

/-- `c.parseTag(tag)`: a lookup for each match, or the first error. -/
def parseTag (tag : List UInt8) : Except ConfigError (List Lookup) :=
  (findAll tag).mapM (parsePart tag)

theorem splitColon_name {name r : List UInt8} (hn : ∀ b ∈ name, isWord b = true) :
    splitColon (name ++ 58 :: r) = [name, r] := by
  rw [splitColon, span_append_stop (fun b hb => ?_) rfl]
  exact bne_iff_ne.mpr fun h => absurd (h ▸ hn b hb) (by decide)


theorem mapM_error {α : Type} {f : α → Except ConfigError Lookup} :
    ∀ {l : List α} {e : ConfigError}, l.mapM f = .error e → ∃ a ∈ l, f a = .error e
  | [], _, h => by cases h
  | a :: l, e, h => by
    rw [List.mapM_cons] at h
    cases ha : f a with
    | error e' => rw [ha] at h; cases h; exact ⟨a, .head _, ha⟩
    | ok b =>
      rw [ha] at h
      cases hl : l.mapM f with
      | error e' =>
        rw [hl] at h; cases h
        obtain ⟨x, hx, hfx⟩ := mapM_error hl
        exact ⟨x, .tail _ hx, hfx⟩
      | ok bs => rw [hl] at h; cases h


theorem parseTag_error {tag : List UInt8} {err : ConfigError} (h : parseTag tag = .error err) :
    err = .errSyntax := by
  obtain ⟨m, hm, hp⟩ := mapM_error h
  obtain ⟨name, r, hn, rfl⟩ := mem_findAll hm
  rw [parsePart, splitColon_name hn] at hp
  dsimp only at hp
  split at hp
  · cases hp
  · cases hp; rfl


/-! ### Tags written as entries -/

/-- Bytes between two entries: no word byte, so no match starts there. -/
def Gap (g : List UInt8) : Prop := ∀ b ∈ g, isWord b = false

instance : DecidablePred Gap := fun g => inferInstanceAs (Decidable (∀ b ∈ g, isWord b = false))

theorem unitAt_nonword {b : UInt8} (hb : isWord b = false) (s : List UInt8) :
    unitAt (b :: s) = none := by
  have h := span_append_stop (a := []) (b := s) (fun _ h => absurd h (List.not_mem_nil _)) hb
  rw [List.nil_append] at h
  rw [unitAt, h]



theorem unitAt_gap {g : List UInt8} (hg : Gap g) (hne : g ≠ []) (s : List UInt8) :
    unitAt (g ++ s) = none := by
  obtain ⟨c, g', rfl⟩ := List.exists_cons_of_ne_nil hne
  exact unitAt_nonword (hg c (.head _)) _



theorem findAll_gap {g : List UInt8} (hg : Gap g) (s : List UInt8) : findAll (g ++ s) = findAll s := by
  induction g with
  | nil => rfl
  | cons b g ih =>
    rw [List.cons_append, findAll_none (chainAt_none (unitAt_nonword (hg b (.head _)) _)),
      ih fun x hx => hg x (.tail _ hx)]



/-- An entry `name:"value"` of a tag whose value needs no escape: a name of word bytes, and a
value without a quote, a backslash or a newline. -/
structure TagEntry where
  name : List UInt8
  value : List UInt8
  name_ne : name ≠ []
  name_word : ∀ b ∈ name, isWord b = true
  value_plain : ∀ b ∈ value, b ≠ 34 ∧ b ≠ 92 ∧ b ≠ 10

namespace TagEntry

def render (e : TagEntry) : List UInt8 := e.name ++ 58 :: 34 :: (e.value ++ [34])

/-- The lookup an entry asks for: its value, in the environment its name picks. -/
def lookup (e : TagEntry) : Lookup := ⟨e.value, storeOf e.name⟩

/-- A tag: the first entry, then each further entry after the bytes before it. -/
def joinWith : TagEntry → List (List UInt8 × TagEntry) → List UInt8
  | e, [] => e.render
  | e, (g, e') :: rest => e.render ++ (g ++ joinWith e' rest)

theorem joinWith_eq (e : TagEntry) (rest : List (List UInt8 × TagEntry)) :
    ∃ t, joinWith e rest = e.render ++ t := by
  rcases rest with _ | ⟨⟨g, e'⟩, rest⟩
  · exact ⟨[], (List.append_nil _).symm⟩
  · exact ⟨_, rfl⟩


theorem unitAt_render (e : TagEntry) (s : List UInt8) :
    unitAt (e.render ++ s) = some (e.render, s) := by
  obtain ⟨x, xs, hx⟩ := List.exists_cons_of_ne_nil e.name_ne
  have h1 : (e.render ++ s).span isWord = (e.name, 58 :: 34 :: (e.value ++ 34 :: s)) := by
    rw [render]; simpa using span_append_stop e.name_word (c := 58) (b := 34 :: (e.value ++ 34 :: s)) rfl
  have h2 : (e.value ++ 34 :: s).span (· != 34) = (e.value, 34 :: s) :=
    span_append_stop (fun x hx => bne_iff_ne.mpr (e.value_plain x hx).1) rfl
  rw [unitAt, h1]
  simp only [hx, h2, render]


theorem render_cons (e : TagEntry) : ∃ b t, e.render = b :: t := by
  obtain ⟨x, xs, hx⟩ := List.exists_cons_of_ne_nil e.name_ne
  exact ⟨x, _, by rw [render, hx, List.cons_append]⟩


theorem splitColon_render (e : TagEntry) (s : List UInt8) :
    splitColon (e.render ++ s) = [e.name, 34 :: (e.value ++ 34 :: s)] := by
  rw [render, List.append_assoc, List.cons_append, List.cons_append, splitColon_name e.name_word]
  simp


theorem parsePart_render (tag : List UInt8) (e : TagEntry) : parsePart tag e.render = .ok e.lookup := by
  have := splitColon_render e []
  rw [List.append_nil] at this
  rw [parsePart, this]
  simp only [unquote_plain e.value_plain]
  rfl


theorem parsePart_touching (tag : List UInt8) (e : TagEntry) {m : List UInt8} (hm : m ≠ []) :
    parsePart tag (e.render ++ m) = .error .errSyntax := by
  rw [parsePart, splitColon_render]
  simp only [unquote_touching e.value_plain hm]


theorem findAll_render (e : TagEntry) {s : List UInt8} (hs : unitAt s = none) :
    findAll (e.render ++ s) = e.render :: findAll s := by
  obtain ⟨b, t, ht⟩ := e.render_cons
  have hc : chainAt (e.render ++ s) = some (e.render, s) := by
    rw [chainAt_unit (e.unitAt_render s), chainAt_none hs]
  rw [ht, List.cons_append] at hc ⊢
  rw [findAll_some hc]


theorem findAll_touching (e e' : TagEntry) (s : List UInt8) :
    ∃ v rest, v ≠ [] ∧ findAll (e.render ++ (e'.render ++ s)) = (e.render ++ v) :: findAll rest := by
  obtain ⟨v, r, hv, hc'⟩ : ∃ v r, v ≠ [] ∧ chainAt (e'.render ++ s) = some (v, r) := by
    rw [chainAt_unit (e'.unitAt_render s)]
    obtain ⟨b, t, ht⟩ := e'.render_cons
    cases chainAt s with
    | none => exact ⟨_, _, by simp [ht], rfl⟩
    | some p => exact ⟨_, _, by simp [ht], rfl⟩
  have hc : chainAt (e.render ++ (e'.render ++ s)) = some (e.render ++ v, r) := by
    rw [chainAt_unit (e.unitAt_render _), hc']
  obtain ⟨b, t, ht⟩ := e.render_cons
  rw [ht, List.cons_append] at hc ⊢
  exact ⟨v, r, hv, findAll_some hc⟩


theorem mapM_joinWith (tag : List UInt8) (e : TagEntry) (rest : List (List UInt8 × TagEntry))
    (hg : ∀ p ∈ rest, Gap p.1) :
    (findAll (joinWith e rest)).mapM (parsePart tag) =
      if ∀ p ∈ rest, p.1 ≠ [] then .ok ((e :: rest.map Prod.snd).map lookup)
      else .error .errSyntax := by
  induction rest generalizing e with
  | nil =>
    rw [joinWith, ← List.append_nil e.render, findAll_render e (s := []) rfl, List.mapM_cons,
      parsePart_render, findAll, List.mapM_nil]
    rfl
  | cons p rest ih =>
    obtain ⟨g, e'⟩ := p
    rw [joinWith]
    by_cases hg0 : g = []
    · subst hg0
      obtain ⟨t, ht⟩ := joinWith_eq e' rest
      obtain ⟨v, r, hv, hf⟩ := findAll_touching e e' t
      rw [List.nil_append, ht, hf, List.mapM_cons, parsePart_touching tag e hv, if_neg (by simp)]
      rfl
    · rw [findAll_render e (unitAt_gap (hg _ (.head _)) hg0 _),
        findAll_gap (hg _ (.head _)), List.mapM_cons, parsePart_render,
        ih e' fun p hp => hg p (.tail _ hp)]
      have hc : (∀ p ∈ (g, e') :: rest, p.1 ≠ []) ↔ ∀ p ∈ rest, p.1 ≠ [] := by simp [hg0]
      simp only [hc]
      split_ifs <;> rfl


/-- `parseTag` reads back every tag of entries with plain values: when bytes that are not word
bytes stand between each entry and the next, the lookups are the entries in order, in the
environment each name picks (`git`, `os`, or the empty one); when two entries touch, the tag
is rejected with `invalid syntax`, although `reflect.StructTag` reads it as two entries. -/
theorem parseTag_joinWith (e : TagEntry) (rest : List (List UInt8 × TagEntry))
    (hg : ∀ p ∈ rest, Gap p.1) :
    parseTag (joinWith e rest) =
      (if ∀ p ∈ rest, p.1 ≠ [] then .ok ((e :: rest.map Prod.snd).map lookup)
      else .error .errSyntax) ∧
    ∀ tag err, parseTag tag = .error err → err = .errSyntax :=
  ⟨mapM_joinWith _ e rest hg, fun _ _ => parseTag_error⟩

end TagEntry

/-- The entries `git:"lfs.transfer.maxretries"` and `os:"GIT_LFS_MAXRETRIES"`. -/
def gitEntry : TagEntry :=
  ⟨ascii "git", ascii "lfs.transfer.maxretries", by decide, by decide, by decide⟩
def osEntry : TagEntry := ⟨ascii "os", ascii "GIT_LFS_MAXRETRIES", by decide, by decide, by decide⟩

/-- Written with nothing between them, the two entries are rejected. -/
theorem parseTag_joinWith_touching :
    parseTag (gitEntry.joinWith [([], osEntry)]) = .error .errSyntax := by
  rw [(TagEntry.parseTag_joinWith gitEntry [([], osEntry)] (by decide)).1, if_neg (by decide)]

end GitLfs.Config
