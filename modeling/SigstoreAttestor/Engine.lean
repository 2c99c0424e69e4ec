import SigstoreAttestor.Cache
import SigstoreAttestor.Signature

/-!
# The attestation engine's state

`Sigstoreimpl` holds the skip list, the allow list and its switch, the transparency-log
endpoint and the selector cache.  The two lists are Go `map[string]bool`s whose only
stored value is `true`; they start nil, a nil map reads as empty, and assigning into a nil
map panics, which is why `AddSkippedImage` and `AddAllowedSubject` make the map first.

The engine calls library code that is not part of this repository — reference parsing,
hashing, URL parsing, base64 decoding, and the rekor client's defaults.  They are gathered
in `Lib`, and every result is proved for all of them.  The registry and the verifier,
whose answers change from call to call, are the per-call `Env` of `FetchImageSignatures`.

## Main definitions

* `GoSet` — a `map[string]bool` used as a set.
* `Lib`, `RekorDefaults`, `URL`, `Reference` — the library the engine calls.
* `Sigstoreimpl`, `New` — the engine and its initial state.
* `AddSkippedImage`, `ClearSkipList`, `AddAllowedSubject`, `ClearAllowedSubjects`,
  `EnableAllowSubjectList`, `ShouldSkipImage` — the policy lists.
* `PolicyOp` — one call of a policy mutator.
* `SetRekorURL` — the endpoint setter.
-/

namespace Sigstore

/-! ### Go maps used as sets -/

/-- A `map[string]bool` holding `true` under each of its keys. -/
inductive GoSet where
  /-- The nil map. -/
  | nil
  /-- A map with the given keys. -/
  | map (keys : List String)
  deriving Repr, DecidableEq

/-- `m[k] = true`: assigning into a nil map panics (`none`). -/
def GoSet.assign : GoSet → String → Option GoSet
  | .nil, _ => none
  | .map ks, k => some (.map (ks.insert k))

/-- `_, ok := m[k]`: a nil map holds nothing. -/
def GoSet.contains : GoSet → String → Bool
  | .nil, _ => false
  | .map ks, k => k ∈ ks

/-- `if m == nil { m = make(map[string]bool) }; m[k] = true`, the insertion both adders make. -/
def GoSet.add (m : GoSet) (k : String) : Option GoSet :=
  (match m with
   | .nil => GoSet.map []
   | .map ks => .map ks).assign k

/-- The keys of a map, as a finite set. -/
def GoSet.toFinset : GoSet → Finset String
  | .nil => ∅
  | .map ks => ks.toFinset

@[simp] theorem GoSet.contains_eq (m : GoSet) (k : String) : m.contains k = decide (k ∈ m.toFinset) := by
  cases m <;> simp [GoSet.contains, GoSet.toFinset]

/-- The guarded insertion never panics, and adds `k`. -/
theorem GoSet.add_eq (m : GoSet) (k : String) :
    ∃ m', m.add k = some m' ∧ m'.toFinset = insert k m.toFinset := by
  cases m <;> refine ⟨_, rfl, ?_⟩ <;> ext <;> simp [GoSet.toFinset]

/-! ### The library -/

/-- A parsed URL, with the fields the engine reads. -/
structure URL where
  /-- The scheme, without `:`. -/
  Scheme : String
  /-- The host, with its port. -/
  Host : String
  /-- The path. -/
  Path : String
  deriving Repr, DecidableEq

/-- The rekor client's generated defaults; the client lists at least one scheme, and `New`
reads the first. -/
structure RekorDefaults where
  /-- `rekor.DefaultHost`. -/
  DefaultHost : String
  /-- `rekor.DefaultBasePath`. -/
  DefaultBasePath : String
  /-- `rekor.DefaultSchemes`. -/
  DefaultSchemes : List String
  /-- The client lists a scheme. -/
  schemes_ne : DefaultSchemes ≠ []

/-- A parsed image reference (`name.Reference`), by its `String()`. -/
inductive Reference where
  /-- A `name.Tag`. -/
  | tag (str : String)
  /-- A `name.Digest`, with its `DigestStr()`. -/
  | digest (str : String) (digestStr : String)
  deriving Repr, DecidableEq

/-- `ref.String()`. -/
def Reference.String : Reference → String
  | .tag s => s
  | .digest s _ => s

/-- The library functions and constants the engine calls. -/
structure Lib where
  /-- `name.ParseReference`. -/
  ParseReference : String → Except String Reference
  /-- `v1.SHA256` of the manifest bytes, by the hash's `String()`. -/
  SHA256 : List UInt8 → Except String String
  /-- `url.Parse`. -/
  urlParse : String → Except String URL
  /-- `base64.StdEncoding.DecodeString`. -/
  decodeString : String → Option Bytes
  /-- The rekor client's defaults. -/
  rekor : RekorDefaults

/-! ### The engine -/

/-- `Sigstoreimpl`, without the verifier and registry functions (the per-call `Env`) and the
logger.  The logger is assumed non-nil: `New(cache, nil)` or `SetLogger(nil)` leaves a nil
`hclog.Logger`, and its first `Error` or `Debug` call — on a subject or bundle error, a
cache hit or a cache store — panics.  A non-nil logger changes nothing the engine returns. -/
structure Sigstoreimpl where
  /-- Images attested without verification. -/
  skippedImages : GoSet
  /-- Whether the allow list is enforced. -/
  allowListEnabled : Bool
  /-- Subjects whose signatures produce selectors when the allow list is enforced. -/
  subjectAllowList : GoSet
  /-- The transparency-log endpoint. -/
  rekorURL : URL
  /-- The selectors cached per image. -/
  sigstorecache : Cacheimpl (List SelectorsFromSignatures)

/-- `New`: empty lists, the allow list off, the rekor client's default endpoint. -/
def New (lib : Lib) (cache : Cacheimpl (List SelectorsFromSignatures)) : Sigstoreimpl where
  skippedImages := .nil
  allowListEnabled := false
  subjectAllowList := .nil
  rekorURL :=
    { Scheme := lib.rekor.DefaultSchemes.head lib.rekor.schemes_ne
      Host := lib.rekor.DefaultHost
      Path := lib.rekor.DefaultBasePath }
  sigstorecache := cache

/-! ### The policy lists -/

/-- `AddSkippedImage`. -/
def AddSkippedImage (sigstore : Sigstoreimpl) (imageID : String) : Option Sigstoreimpl :=
  (sigstore.skippedImages.add imageID).map fun m => { sigstore with skippedImages := m }

/-- `ClearSkipList`: the delete loop empties the map, which is then dropped for nil. -/
def ClearSkipList (sigstore : Sigstoreimpl) : Sigstoreimpl :=
  { sigstore with skippedImages := .nil }

/-- `AddAllowedSubject`. -/
def AddAllowedSubject (sigstore : Sigstoreimpl) (subject : String) : Option Sigstoreimpl :=
  (sigstore.subjectAllowList.add subject).map fun m => { sigstore with subjectAllowList := m }

/-- `ClearAllowedSubjects`: the delete loop empties the map, which is then dropped for nil. -/
def ClearAllowedSubjects (sigstore : Sigstoreimpl) : Sigstoreimpl :=
  { sigstore with subjectAllowList := .nil }

/-- `EnableAllowSubjectList`. -/
def EnableAllowSubjectList (sigstore : Sigstoreimpl) (flag : Bool) : Sigstoreimpl :=
  { sigstore with allowListEnabled := flag }

/-- `ShouldSkipImage`: whether the image is skip-listed, and the error for an empty ID asked
of a non-nil list. -/
def ShouldSkipImage (sigstore : Sigstoreimpl) (imageID : String) : Bool × Option String :=
  match sigstore.skippedImages with
  | .nil => (false, none)
  | .map _ =>
    if imageID = "" then (false, some "Image ID is empty")
    else (sigstore.skippedImages.contains imageID, none)

/-- One call of a policy mutator. -/
inductive PolicyOp where
  /-- `AddSkippedImage(imageID)`. -/
  | addSkippedImage (imageID : String)
  /-- `ClearSkipList()`. -/
  | clearSkipList
  /-- `AddAllowedSubject(subject)`. -/
  | addAllowedSubject (subject : String)
  /-- `ClearAllowedSubjects()`. -/
  | clearAllowedSubjects
  /-- `EnableAllowSubjectList(flag)`. -/
  | enableAllowSubjectList (flag : Bool)
  deriving Repr, DecidableEq

/-- One policy call, `none` if it panics. -/
def PolicyOp.apply (sigstore : Sigstoreimpl) : PolicyOp → Option Sigstoreimpl
  | .addSkippedImage imageID => AddSkippedImage sigstore imageID
  | .clearSkipList => some (ClearSkipList sigstore)
  | .addAllowedSubject subject => AddAllowedSubject sigstore subject
  | .clearAllowedSubjects => some (ClearAllowedSubjects sigstore)
  | .enableAllowSubjectList flag => some (EnableAllowSubjectList sigstore flag)

/-- A policy call changes neither the endpoint nor the cache. -/
theorem PolicyOp.apply_frame {sigstore sigstore' : Sigstoreimpl} {op : PolicyOp}
    (h : op.apply sigstore = some sigstore') :
    sigstore'.rekorURL = sigstore.rekorURL ∧ sigstore'.sigstorecache = sigstore.sigstorecache := by
  cases op with
  | addSkippedImage _ | addAllowedSubject _ =>
    obtain ⟨_, _, rfl⟩ := Option.map_eq_some'.1 h; exact ⟨rfl, rfl⟩
  | _ => cases h; exact ⟨rfl, rfl⟩

/-! ### The endpoint -/

/-- `SetRekorURL`: the returned error, and the engine afterwards.  The URL must be non-empty,
parse, have no scheme or `https`, and have a host. -/
def SetRekorURL (lib : Lib) (sigstore : Sigstoreimpl) (rekorURL : String) :
    Option String × Sigstoreimpl :=
  if rekorURL = "" then (some "Rekor URL is empty", sigstore) else
  match lib.urlParse rekorURL with
  | .error e => (some ("Error parsing rekor URI: " ++ e), sigstore)
  | .ok rekorURI =>
    if rekorURI.Scheme ≠ "" ∧ rekorURI.Scheme ≠ "https" then
      (some ("Invalid rekor URL Scheme: " ++ rekorURI.Scheme), sigstore)
    else if rekorURI.Host = "" then (some ("Invalid rekor URL Host: " ++ rekorURI.Host), sigstore)
    else (none, { sigstore with rekorURL := rekorURI })

end Sigstore
