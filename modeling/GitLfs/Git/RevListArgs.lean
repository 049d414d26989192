import Mathlib.Data.List.Infix

/-! # The arguments of `git rev-list`

`revListArgs` builds the command line and the standard input of the `git rev-list` that a
`RevListScanner` reads, from the scan's mode and options. In the mode that scans between two
refspecs, the right one is left out when `z40` matches it; `MatchString` looks for a match
anywhere in the string.
-/

namespace GitLfs.Git

/-- `ScanRefsOptions`, with what `revListArgs` reads: the `ScanningMode` and the
`RevListOrder` are Go `int`s. -/
structure ScanRefsOptions where
  mode : Int
  remote : String
  skipDeletedBlobs : Bool
  order : Int
  skippedRefs : List String

/-- `ScanRefsMode`, `ScanAllMode` and `ScanLeftToRemoteMode`. -/
def scanRefsMode : Int := 0
def scanAllMode : Int := 1
def scanLeftToRemoteMode : Int := 2

/-- The argument of the `switch` on `opt.Order`: `DateRevListOrder`, `AuthorDateRevListOrder`
and `TopoRevListOrder` are 1, 2 and 3; any other order adds nothing. -/
def orderArgs (order : Int) : List String :=
  if order = 1 then ["--date-order"]
  else if order = 2 then ["--author-date-order"]
  else if order = 3 then ["--topo-order"]
  else []

/-- Forty zeros. -/
def zeros : List Char := List.replicate 40 '0'

/-- A match of `\^?0{40}` that starts at the front of `s`. -/
def z40At (s : List Char) : Bool :=
  zeros.isPrefixOf s || (s.head? = some '^' && zeros.isPrefixOf s.tail)

/-- `z40.MatchString(s)`: a match starts somewhere in `s`. -/
def z40Match : List Char → Bool
  | [] => false
  | c :: cs => z40At (c :: cs) || z40Match cs

/-- `revListArgs(l, r, opt)`: the standard input, if any, and the arguments of `git`. -/
def revListArgs (l r : String) (opt : ScanRefsOptions) :
    Except String (Option String × List String) :=
  let args := ["rev-list", "--objects"] ++ orderArgs opt.order
  if opt.mode = scanRefsMode then
    let args := args ++ [if opt.skipDeletedBlobs then "--no-walk" else "--do-walk", l]
    let args := if r.length > 0 && !z40Match r.toList then args ++ [r] else args
    .ok (none, args ++ ["--"])
  else if opt.mode = scanAllMode then .ok (none, args ++ ["--all", "--"])
  else if opt.mode = scanLeftToRemoteMode then
    if opt.skippedRefs = [] then .ok (none, args ++ [l, "--not", "--remotes=" ++ opt.remote, "--"])
    else .ok (some ("\n".intercalate (l :: opt.skippedRefs)), args ++ ["--stdin", "--"])
  else .error ("unknown scan type: " ++ toString opt.mode)

theorem z40Match_iff (s : List Char) : z40Match s = true ↔ zeros <:+: s := by
  induction s with
  | nil => simp [z40Match, zeros]
  | cons c cs ih =>
    rw [z40Match, Bool.or_eq_true, ih, List.infix_cons_iff, z40At, Bool.or_eq_true,
      List.isPrefixOf_iff_prefix, Bool.and_eq_true, List.isPrefixOf_iff_prefix]
    constructor
    · rintro ((h | ⟨-, h⟩) | h)
      · exact .inl h
      · exact .inr h.isInfix
      · exact .inr h
    · rintro (h | h)
      · exact .inl (.inl h)
      · exact .inr h

end GitLfs.Git
