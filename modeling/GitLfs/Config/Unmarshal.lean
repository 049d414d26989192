import GitLfs.Config.Tag
import GitLfs.TransferQueue.Basic

/-! # `Configuration.Unmarshal`

`Unmarshal` sets the fields of a struct from the lookups of their tags: a field takes the
value of the first lookup whose environment holds its key, read as the field's kind, and
`reflect.Value.Set` stores it, which panics for an unexported field or a field whose type is
defined over `string`, `int` or `bool` rather than that type itself. The loop returns at the
first error, with the fields before it set.
-/

namespace GitLfs.Config

/-- `config.Environment` through the three calls `Unmarshal` makes: `Get`, and `Int` and
`Bool`, each given the default it falls back to. -/
structure Environment where
  get : List UInt8 → Option (List UInt8)
  int : List UInt8 → Int → Int
  bool : List UInt8 → Bool → Bool

/-- `emptyEnv`, over a map without keys. -/
def emptyEnv : Environment := ⟨fun _ => none, fun _ d => d, fun _ d => d⟩

/-- The `Os` and `Git` environments of a `config.Configuration`. -/
structure Configuration where
  os : Environment
  git : Environment

/-- The environment a lookup reads. -/
def Store.env (c : Configuration) : Store → Environment
  | .git => c.git
  | .os => c.os
  | .empty => emptyEnv

/-- The value of a field, of one of the kinds `Unmarshal` sets, or of another type, named as
`sfield.Type.String()` prints it. -/
inductive Value
  | string (s : List UInt8)
  | int (n : Int)
  | bool (b : Bool)
  | other (typ : String)
  deriving DecidableEq, Repr

/-- A field of the struct: its name, its tag, its value, whether it is exported, and whether
its type is the predeclared `string`, `int` or `bool` of its kind (not a type such as
`type S string`). -/
structure Field where
  name : String
  tag : List UInt8
  value : Value
  exported : Bool
  builtin : Bool
  deriving DecidableEq, Repr

/-- How `Unmarshal` stops before its last field: it returns an error, or
`into.Field(i).Set(reflect.ValueOf(val))` panics. -/
inductive Stop
  | error (e : ConfigError)
  | panic
  deriving DecidableEq, Repr

/-- The switch of `Unmarshal` on the field's kind, once the lookup of `key` found `s`. -/
def Value.read (v : Value) (field : String) (env : Environment) (key s : List UInt8) :
    Except ConfigError Value :=
  match v with
  | .string _ => .ok (.string s)
  | .int n => .ok (.int (env.int key n))
  | .bool b => .ok (.bool (env.bool key b))
  | .other typ => .error (.unsupported field typ)

/-- The inner loop of `Unmarshal` over a field's lookups: `val`, set by the first lookup
whose environment holds its key. -/
def lookupValue (c : Configuration) (f : Field) : List Lookup → Except ConfigError (Option Value)
  | [] => .ok none
  | l :: ls =>
    match (l.store.env c).get l.key with
    | none => lookupValue c f ls
    | some s => (f.value.read f.name (l.store.env c) l.key s).map some

/-- `into.Field(i).Set(reflect.ValueOf(val))`: `val` has the predeclared type of the field's
kind, which only an exported field of that very type accepts. -/
def setField (f : Field) (v : Value) : Except Stop Field :=
  if f.exported && f.builtin then .ok { f with value := v } else .error .panic

/-- One turn of the loop of `Unmarshal`: the field after it, or how it stops. -/
def unmarshalField (c : Configuration) (f : Field) : Except Stop Field :=
  match parseTag f.tag with
  | .error e => .error (.error e)
  | .ok lookups =>
    match lookupValue c f lookups with
    | .error e => .error (.error e)
    | .ok none => .ok f
    | .ok (some v) => setField f v

/-- The loop of `Unmarshal` over the fields. It sets each field in place, and returns at the
first error with the fields before it set. -/
def unmarshalFields (c : Configuration) : List Field → List Field × Option Stop
  | [] => ([], none)
  | f :: fs =>
    match unmarshalField c f with
    | .error e => (f :: fs, some e)
    | .ok f' => ((f' :: (unmarshalFields c fs).1), (unmarshalFields c fs).2)

/-- What `Unmarshal` is given: a pointer to a struct, or a value of another kind, with the type
`%T` prints. -/
inductive Target
  | ptr (fields : List Field)
  | value (typ : String)
  deriving DecidableEq, Repr

/-- `c.Unmarshal(v)`: the target after it, and how it stopped, if it did. -/
def unmarshal (c : Configuration) : Target → Target × Option Stop
  | .ptr fs => (.ptr (unmarshalFields c fs).1, (unmarshalFields c fs).2)
  | .value typ => (.value typ, some (.error (.nonPointer typ)))

/-! ### The loop over the lookups -/

/-- The first lookup whose environment holds its key, with the value it holds. -/
def firstPresent (c : Configuration) (ls : List Lookup) : Option (Lookup × List UInt8) :=
  ls.findSome? fun l => ((l.store.env c).get l.key).map (l, ·)

theorem lookupValue_eq (c : Configuration) (f : Field) (ls : List Lookup) :
    lookupValue c f ls = match firstPresent c ls with
      | none => .ok none
      | some (l, s) => (f.value.read f.name (l.store.env c) l.key s).map some := by
  induction ls with
  | nil => rfl
  | cons l ls ih =>
    simp only [lookupValue, firstPresent, List.findSome?_cons]
    cases (l.store.env c).get l.key with
    | none => exact ih
    | some s => rfl

theorem unmarshalField_eq (c : Configuration) (f : Field) :
    unmarshalField c f = ((parseTag f.tag).mapError .error).bind fun ls =>
      match firstPresent c ls with
      | none => .ok f
      | some (l, s) =>
        ((f.value.read f.name (l.store.env c) l.key s).mapError .error).bind (setField f) := by
  unfold unmarshalField
  cases parseTag f.tag with
  | error e => rfl
  | ok ls =>
    simp only [lookupValue_eq, Except.mapError, Except.bind]
    cases firstPresent c ls with
    | none => rfl
    | some p =>
      obtain ⟨l, s⟩ := p
      dsimp only
      cases f.value.read f.name (l.store.env c) l.key s <;> rfl

/-- A field's turn fails only on its tag, with `invalid syntax`; on a lookup with a value for a
field of a kind it cannot set, with an error that names the field and its type; or by the
panic of `Set`, for a field that is unexported or of a type defined over its kind. -/
theorem unmarshalField_error {c : Configuration} {f : Field} {err : Stop}
    (h : unmarshalField c f = .error err) :
    err = .error .errSyntax ∨ (∃ typ, f.value = .other typ ∧ err = .error (.unsupported f.name typ)) ∨
      (err = .panic ∧ (f.exported = false ∨ f.builtin = false)) := by
  rw [unmarshalField_eq] at h
  cases ht : parseTag f.tag <;> simp only [ht, Except.mapError, Except.bind] at h
  · cases h; exact .inl (by rw [parseTag_error ht])
  · split at h
    · cases h
    · cases hv : f.value with
      | other typ => rw [hv] at h; cases h; exact .inr (.inl ⟨typ, rfl, rfl⟩)
      | _ =>
        simp only [hv, Value.read, setField] at h
        split at h
        · cases h
        · rename_i hs
          cases h
          refine .inr (.inr ⟨rfl, ?_⟩)
          revert hs
          cases f.exported <;> cases f.builtin <;> simp

/-! ### The loop over the fields -/

/-- `Unmarshal` of a pointer either sets every field, each as its turn does, and returns no
error; or it stops at the first field whose turn fails, with the fields before it set, that
field and the ones after it as they were, by `invalid syntax` from its tag, by an error naming
that field and its type, or by the panic of `Set` on a field that is unexported or of a type
defined over its kind. -/
theorem unmarshalFields_outcome (c : Configuration) : ∀ fs : List Field,
    (∃ fs', fs.mapM (unmarshalField c) = .ok fs' ∧ unmarshalFields c fs = (fs', none)) ∨
    ∃ pre f post pre' err, fs = pre ++ f :: post ∧ pre.mapM (unmarshalField c) = .ok pre' ∧
      unmarshalField c f = .error err ∧ unmarshalFields c fs = (pre' ++ f :: post, some err) ∧
      (err = .error .errSyntax ∨ (∃ typ, f.value = .other typ ∧ err = .error (.unsupported f.name typ)) ∨
        (err = .panic ∧ (f.exported = false ∨ f.builtin = false)))
  | [] => .inl ⟨[], rfl, rfl⟩
  | f :: fs => by
    cases hf : unmarshalField c f with
    | error err =>
      exact .inr ⟨[], f, fs, [], err, rfl, rfl, hf, by simp [unmarshalFields, hf],
        unmarshalField_error hf⟩
    | ok f' =>
      rcases unmarshalFields_outcome c fs with ⟨fs', hm, hu⟩ | ⟨pre, g, post, pre', err, rfl, hm, hg, hu, he⟩
      · exact .inl ⟨f' :: fs', by rw [List.mapM_cons, hf, hm]; rfl, by simp [unmarshalFields, hf, hu]⟩
      · exact .inr ⟨f :: pre, g, post, f' :: pre', err, rfl, by rw [List.mapM_cons, hf, hm]; rfl,
          hg, by simp [unmarshalFields, hf, hu], he⟩

/-! ### Fields tagged with entries -/

theorem parseTag_entries (e : TagEntry) (rest : List (List UInt8 × TagEntry))
    (hg : ∀ p ∈ rest, Gap p.1 ∧ p.1 ≠ []) :
    parseTag (e.joinWith rest) = .ok ((e :: rest.map Prod.snd).map TagEntry.lookup) := by
  rw [parseTag, TagEntry.mapM_joinWith _ e rest fun p hp => (hg p hp).1,
    if_pos fun p hp => (hg p hp).2]

/-- A field whose tag is entries with plain values, bytes that are not word bytes between each
and the next, is read from the first entry whose environment holds its key, as the field's
kind: a string field is given the string found, whatever it held; a number or a flag what
`Int` or `Bool` makes of it, with the value held only as the default; a field of another kind
fails, naming itself. The value is stored only in an exported field of the predeclared type;
any other field makes `Set` panic. When no environment holds a key, the field stays. -/
theorem unmarshalField_entries (c : Configuration) (name : String) (v : Value) (e : TagEntry)
    (rest : List (List UInt8 × TagEntry)) (exported builtin : Bool)
    (hg : ∀ p ∈ rest, Gap p.1 ∧ p.1 ≠ []) :
    unmarshalField c ⟨name, e.joinWith rest, v, exported, builtin⟩ =
      match firstPresent c ((e :: rest.map Prod.snd).map TagEntry.lookup) with
      | none => .ok ⟨name, e.joinWith rest, v, exported, builtin⟩
      | some (l, s) =>
        match v.read name (l.store.env c) l.key s with
        | .error err => .error (.error err)
        | .ok v' =>
          if exported && builtin then .ok ⟨name, e.joinWith rest, v', exported, builtin⟩
          else .error .panic := by
  rw [unmarshalField_eq, parseTag_entries e rest hg]
  simp only [Except.mapError, Except.bind]
  split
  · rfl
  · cases v.read name _ _ _ <;> rfl

/-- A configuration with `GIT_LFS_MAXRETRIES=3` in the process environment and nothing in
git's. -/
def osRetries : Configuration :=
  ⟨⟨fun k => if k = ascii "GIT_LFS_MAXRETRIES" then some (ascii "3") else none,
    fun k d => if k = ascii "GIT_LFS_MAXRETRIES" then 3 else d, fun _ d => d⟩, emptyEnv⟩

/-- A field tagged `git:"lfs.transfer.maxretries" os:"GIT_LFS_MAXRETRIES"` that holds 5 takes 3
from the second entry. -/
theorem unmarshalField_entries_os :
    unmarshalField osRetries ⟨"MaxRetries", gitEntry.joinWith [(ascii " ", osEntry)], .int 5,
        true, true⟩ =
      .ok ⟨"MaxRetries", gitEntry.joinWith [(ascii " ", osEntry)], .int 3, true, true⟩ :=
  (unmarshalField_entries osRetries "MaxRetries" (.int 5) gitEntry [(ascii " ", osEntry)] true true
    (by decide)).trans rfl

/-! ### `newRetryCounter` -/

/-- The key `retryCounter.MaxRetries` is tagged with. -/
def retriesKey : List UInt8 := ascii "lfs.transfer.maxretries"

/-- `retryCounter` as `Unmarshal` sees it: `MaxRetries`, then `cmu` and `count`, which have no
tag. -/
def retryCounterFields (maxRetries : Int) : List Field :=
  [⟨"MaxRetries", ascii "git:\"lfs.transfer.maxretries\"", .int maxRetries, true, true⟩,
    ⟨"cmu", [], .other "sync.Mutex", false, false⟩,
    ⟨"count", [], .other "map[string]int", false, false⟩]

/-- What `newRetryCounter(cfg)` learns from `cfg.Unmarshal(rc)`, in the form the transfer
queue's `newRetryCounter` takes: the error, or `MaxRetries` after the call. A panic, which a
`retryCounter` never causes, is read as no value. -/
def unmarshalRetries (c : Configuration) : Except String (Option Int) :=
  match unmarshal c (.ptr (retryCounterFields Tq.defaultMaxRetries)) with
  | (_, some (.error err)) => .error err.message
  | (.ptr (⟨_, _, .int n, _, _⟩ :: _), none) => .ok (some n)
  | _ => .ok none

theorem parseTag_nil : parseTag [] = .ok [] := by
  rw [parseTag, findAll]; rfl

theorem unmarshalField_untagged (c : Configuration) (name : String) (v : Value)
    (exported builtin : Bool) :
    unmarshalField c ⟨name, [], v, exported, builtin⟩ = .ok ⟨name, [], v, exported, builtin⟩ := by
  rw [unmarshalField_eq, parseTag_nil]; rfl

theorem gitEntry_joinWith : gitEntry.joinWith [] = ascii "git:\"lfs.transfer.maxretries\"" := by
  decide

theorem gitEntry_lookup : gitEntry.lookup = ⟨retriesKey, .git⟩ := by decide

theorem unmarshalFields_retryCounter (c : Configuration) (n : Int) :
    unmarshalFields c (retryCounterFields n) =
      (⟨"MaxRetries", ascii "git:\"lfs.transfer.maxretries\"",
        .int (if (c.git.get retriesKey).isSome then c.git.int retriesKey n else n), true, true⟩ ::
        (retryCounterFields n).tail, none) := by
  have hp := parseTag_entries gitEntry [] nofun
  rw [gitEntry_joinWith] at hp
  have hm := unmarshalField_eq c ⟨"MaxRetries", ascii "git:\"lfs.transfer.maxretries\"", .int n,
    true, true⟩
  simp only [hp, List.map_nil, List.map_cons, gitEntry_lookup, firstPresent, List.findSome?_cons,
    List.findSome?_nil, Store.env, Except.mapError, Except.bind] at hm
  cases hg : c.git.get retriesKey <;>
    simp only [hg, Option.map_none', Option.map_some', Option.isSome_none, Option.isSome_some] at hm ⊢ <;>
    simp [retryCounterFields, unmarshalFields, hm, unmarshalField_untagged, Value.read,
      Except.mapError, Except.bind, setField]

/-- `Unmarshal` cannot fail on a `retryCounter`, so `newRetryCounter` never takes its fallback
for an error: the bound is `lfs.transfer.maxretries` as git's `Int` reads it, or
`defaultMaxRetries` when git has no value, and at least 1. -/
theorem newRetryCounter_config (c : Configuration) :
    unmarshalRetries c = .ok (some (if (c.git.get retriesKey).isSome
      then c.git.int retriesKey Tq.defaultMaxRetries else Tq.defaultMaxRetries)) ∧
    (Tq.newRetryCounter (unmarshalRetries c)).maxRetries = max 1 (if (c.git.get retriesKey).isSome
      then c.git.int retriesKey Tq.defaultMaxRetries else Tq.defaultMaxRetries) := by
  have hr : unmarshalRetries c = .ok (some (if (c.git.get retriesKey).isSome
      then c.git.int retriesKey Tq.defaultMaxRetries else Tq.defaultMaxRetries)) := by
    simp only [unmarshalRetries, unmarshal, unmarshalFields_retryCounter]
  refine ⟨hr, ?_⟩
  rw [Tq.newRetryCounter_maxRetries, hr]
  rfl

end GitLfs.Config
