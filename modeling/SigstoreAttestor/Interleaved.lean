import SigstoreAttestor.Attest
import SigstoreAttestor.Policy

/-!
# Attestations in flight

Attestation calls run concurrently and share one engine.  Here a call is a sequence of
steps at the granularity of the engine's shared state: the skip check; the cache lookup,
which on a hit renders at once from the copy of the item `GetSignature` returns; the fetch;
the extraction; and the cache store, which renders the stored list.  Between two steps of a
call, other calls may step, new calls may start, and the policy lists and the endpoint may
change.  `System` is the engine with the calls started so far, `System.step` takes one step
of one call or makes one policy or endpoint call, and `runSystem` makes a whole run.

Each step is atomic: that is an assumption of the model, not a property of the code.
`Cacheimpl` takes no lock, so two calls whose `GetSignature` or `PutSignature` overlap in
time are outside the model; two misses of one key storing it at once could, for instance,
both find it absent and leave it in the list twice.  The policy maps are likewise read and
written without a lock.

The model keeps ghost state the code does not: the log of finished extractions, each with
the registry and verifier answers and the engine its fetch read, and the engine its
extraction read; and, for a call the skip list answered, the engine its skip check read.

A call run alone, step after step, is `AttestContainerSignatures` (`run_call_eq_attest`).
Over every run from `New`, the cache holds only lists that a logged extraction produced from
a successful fetch; a failed fetch ends its call with the error and changes nothing else;
and a call that returns the sentinel had its image on the skip list its skip check read, or
returns a subject selector for a subject the allow list admitted when its list was
extracted.  A hit renders the cached list
without a new allow check, so a subject cached while the allow list was off is still served
once it is on (`cache_hit_serves_suppressed_subject`).  Whatever a step does to the cache is a
sequence of the cache's own calls, so however the calls interleave the cache stays in a state
of the `Cache` module's runs; a step changes nothing else of the engine, so the policy and the
endpoint after a run are what the run's policy and `SetRekorURL` calls alone make them; and on
a cache of capacity at least `1`, with a non-nil logger, the one step that panics is an
extraction meeting a signature whose `Bundle()` is `(nil, nil)`.

## Main definitions

* `Extraction`, `Phase`, `Call`, `System` — the calls in flight, with the ghost log.
* `Call.step`, `System.step`, `runSystem` — one step and a run.
* `System.Inv` — the invariant of every run.

## Main results

* `run_call_eq_attest` — a call's steps, with nothing in between, are one attestation.
* `System.Inv.step`, `runSystem_inv` — every step, and so every run, keeps the invariant.
* `attest_provenance` — what the cache holds, what a failed fetch does, and what the
  sentinel means, over every run.
* `served_selectors_allowed_at_extraction` — every returned list is the rendering of an
  extraction whose subjects the allow list then admitted.
* `runSystem_cache`, `system_cache_reachable` — over every run, the cache is in a state its
  own calls reach, with distinct keys and at most `N` items.
* `runSystem_config`, `system_config_refines` — over every run, the policy and the endpoint
  are the abstract run of the run's policy calls and the run of its `SetRekorURL` calls.
* `attest_panics_only_on_nil_bundle` — over every run, a step panics only on an admitted
  signature with no bundle.
-/

namespace Sigstore

/-! ### Calls in flight -/

/-- A finished extraction, as the log records it. -/
structure Extraction where
  /-- The call's image. -/
  imageID : String
  /-- The call's container. -/
  containerID : String
  /-- What the registry and the verifier answered the fetch. -/
  env : Env
  /-- The engine the fetch read. -/
  fetchedBy : Sigstoreimpl
  /-- The signatures fetched. -/
  signatures : List (Option Signature)
  /-- The engine the extraction read. -/
  extractedBy : Sigstoreimpl
  /-- The selectors extracted. -/
  selectors : List SelectorsFromSignatures

/-- Where a call of `AttestContainerSignatures` is. -/
inductive Phase where
  /-- Before `ShouldSkipImage`. -/
  | skipCheck
  /-- Past the skip check, before `GetSignature`. -/
  | cacheLookup
  /-- After a miss, before `FetchImageSignatures`. -/
  | fetch
  /-- After a successful fetch, before `ExtractSelectorsFromSignatures`, with what the fetch
  was answered, the engine it read, and the signatures it returned. -/
  | extract (env : Env) (fetchedBy : Sigstoreimpl) (signatures : List (Option Signature))
  /-- After the extraction, before `PutSignature`. -/
  | cacheStore (extraction : Extraction)
  /-- Returned; `some engine` when the skip check of `engine` answered the call. -/
  | done (result : Except String (List String)) (skippedBy : Option Sigstoreimpl)

/-- A call in flight. -/
structure Call where
  /-- The container asked about. -/
  status : ContainerStatus
  /-- Where the call is. -/
  phase : Phase

/-- The engine, the calls started so far, and the extraction log. -/
structure System where
  /-- The shared engine. -/
  engine : Sigstoreimpl
  /-- The calls, by the order they started in. -/
  calls : List Call
  /-- The finished extractions, oldest first. -/
  log : List Extraction

/-- A fresh engine over an empty cache of capacity `N`, with no call. -/
def System.init (lib : Lib) (N : ℤ) : System := ⟨New lib (NewCache N), [], []⟩

/-- One event of a run. -/
inductive Event where
  /-- A call of `AttestContainerSignatures` starts. -/
  | attest (status : ContainerStatus)
  /-- Call `i` takes its next step, the registry and the verifier answering `env`. -/
  | advance (i : ℕ) (env : Env)
  /-- A policy call. -/
  | policy (op : PolicyOp)
  /-- `SetRekorURL(rekorURL)`. -/
  | setRekorURL (rekorURL : String)

/-- The next step of a call: the engine after it, the call's next phase, and the extraction
it logs; `none` where it panics.  A finished call stays as it is. -/
def Call.step (lib : Lib) (env : Env) (engine : Sigstoreimpl) (call : Call) :
    Option (Sigstoreimpl × Phase × List Extraction) :=
  let status := call.status
  match call.phase with
  | .skipCheck =>
    if (ShouldSkipImage engine status.ImageID).1 then
      some (engine, .done (.ok [signatureVerifiedSelector]) (some engine), [])
    else some (engine, .cacheLookup, [])
  | .cacheLookup =>
    match engine.sigstorecache.GetSignature status.ImageID with
    | (some cachedSignature, sigstorecache) =>
      some ({ engine with sigstorecache },
        .done (.ok (selectorsString cachedSignature.Value status.ContainerID)) none, [])
    | (none, _) => some (engine, .fetch, [])
  | .fetch =>
    match FetchImageSignatures lib env engine status.ImageID with
    | .error err => some (engine, .done (.error err) none, [])
    | .ok signatures => some (engine, .extract env engine signatures, [])
  | .extract env' fetchedBy signatures =>
    (ExtractSelectorsFromSignatures lib engine signatures status.ContainerID).map fun selectors =>
      let e : Extraction :=
        ⟨status.ImageID, status.ContainerID, env', fetchedBy, signatures, engine, selectors⟩
      (engine, .cacheStore e, [e])
  | .cacheStore e =>
    (engine.sigstorecache.PutSignature ⟨status.ImageID, e.selectors⟩).map fun sigstorecache =>
      ({ engine with sigstorecache },
        .done (.ok (selectorsString e.selectors status.ContainerID)) none, [])
  | .done result skippedBy => some (engine, .done result skippedBy, [])

/-- One event; `none` where it panics.  Advancing a call that was never started does
nothing. -/
def System.step (lib : Lib) (s : System) : Event → Option System
  | .attest status => some { s with calls := s.calls ++ [⟨status, .skipCheck⟩] }
  | .advance i env =>
    match s.calls[i]? with
    | none => some s
    | some call =>
      (call.step lib env s.engine).map fun (engine, phase, logged) =>
        ⟨engine, s.calls.set i ⟨call.status, phase⟩, s.log ++ logged⟩
  | .policy op => (op.apply s.engine).map fun engine => { s with engine }
  | .setRekorURL rekorURL => some { s with engine := (SetRekorURL lib s.engine rekorURL).2 }

/-- A run, `none` if some step panics. -/
def runSystem (lib : Lib) (s : System) : List Event → Option System
  | [] => some s
  | ev :: evs => (s.step lib ev).bind (runSystem lib · evs)

/-! ### A call alone is one attestation -/

/-- `n` steps of one call on the engine alone. -/
def Call.steps (lib : Lib) (env : Env) : ℕ → Sigstoreimpl → Call → Option (Sigstoreimpl × Call)
  | 0, engine, call => some (engine, call)
  | n + 1, engine, call =>
    (call.step lib env engine).bind fun (engine', phase, _) =>
      Call.steps lib env n engine' ⟨call.status, phase⟩

/-! Each phase's step, for a call whose phase is known. -/

section PhaseStep

variable {lib : Lib} {env : Env} {engine : Sigstoreimpl} {status : ContainerStatus}

theorem Call.step_skipCheck :
    Call.step lib env engine ⟨status, .skipCheck⟩ =
      if (ShouldSkipImage engine status.ImageID).1 then
        some (engine, .done (.ok [signatureVerifiedSelector]) (some engine), [])
      else some (engine, .cacheLookup, []) := rfl

theorem Call.step_cacheLookup_miss
    (h : getElement engine.sigstorecache.items status.ImageID = none) :
    Call.step lib env engine ⟨status, .cacheLookup⟩ = some (engine, .fetch, []) := by
  simp only [Call.step, getSignature_of_getElement_none h]

theorem Call.step_cacheLookup_hit {item : Item (List SelectorsFromSignatures)}
    (h : getElement engine.sigstorecache.items status.ImageID = some item) :
    Call.step lib env engine ⟨status, .cacheLookup⟩ =
      some ({ engine with sigstorecache := (engine.sigstorecache.GetSignature status.ImageID).2 },
        .done (.ok (selectorsString item.Value status.ContainerID)) none, []) := by
  simp only [Call.step, getSignature_of_getElement_some h]

theorem Call.step_fetch :
    Call.step lib env engine ⟨status, .fetch⟩ =
      match FetchImageSignatures lib env engine status.ImageID with
      | .error err => some (engine, .done (.error err) none, [])
      | .ok signatures => some (engine, .extract env engine signatures, []) := rfl

theorem Call.step_extract {env' : Env} {fetchedBy : Sigstoreimpl}
    {signatures : List (Option Signature)} :
    Call.step lib env engine ⟨status, .extract env' fetchedBy signatures⟩ =
      (ExtractSelectorsFromSignatures lib engine signatures status.ContainerID).map fun selectors =>
        let e : Extraction :=
          ⟨status.ImageID, status.ContainerID, env', fetchedBy, signatures, engine, selectors⟩
        (engine, .cacheStore e, [e]) := rfl

theorem Call.step_cacheStore {e : Extraction} :
    Call.step lib env engine ⟨status, .cacheStore e⟩ =
      (engine.sigstorecache.PutSignature ⟨status.ImageID, e.selectors⟩).map fun sigstorecache =>
        ({ engine with sigstorecache },
          .done (.ok (selectorsString e.selectors status.ContainerID)) none, []) := rfl

theorem Call.step_done {result : Except String (List String)} {skippedBy : Option Sigstoreimpl} :
    Call.step lib env engine ⟨status, .done result skippedBy⟩ =
      some (engine, .done result skippedBy, []) := rfl

end PhaseStep

/-- Five steps of a call from its skip check are `AttestContainerSignatures`. -/
theorem call_steps_eq_attest (lib : Lib) (env : Env) (engine : Sigstoreimpl)
    (status : ContainerStatus) :
    Call.steps lib env 5 engine ⟨status, .skipCheck⟩ =
      (AttestContainerSignatures lib env engine status).map fun (r, engine') =>
        (engine', ⟨status, .done r (if (ShouldSkipImage engine status.ImageID).1 then some engine
          else none)⟩) := by
  simp only [Call.steps, Call.step_skipCheck, AttestContainerSignatures]
  by_cases hskip : (ShouldSkipImage engine status.ImageID).1
  · simp only [hskip, if_true, Option.some_bind, Call.step_done, Option.map_some']
  simp only [hskip, Bool.false_eq_true, if_false, Option.some_bind]
  rcases hget : getElement engine.sigstorecache.items status.ImageID with _ | item
  · simp only [getSignature_of_getElement_none hget, Call.step_cacheLookup_miss hget, Option.some_bind,
      Call.step_fetch]
    rcases FetchImageSignatures lib env engine status.ImageID with err | signatures
    · simp only [Option.some_bind, Call.step_done, Option.map_some']
    · simp only [Option.some_bind, Call.step_extract, Option.bind_eq_bind]
      rcases ExtractSelectorsFromSignatures lib engine signatures status.ContainerID with
        _ | selectors
      · rfl
      · simp only [Option.map_some', Option.some_bind, Call.step_cacheStore]
        cases engine.sigstorecache.PutSignature ⟨status.ImageID, selectors⟩ <;> rfl
  · simp only [getSignature_of_getElement_some hget, Call.step_cacheLookup_hit hget, Option.some_bind,
      Call.step_done, Option.map_some']

/-- Advancing call `i` only, `n` times, is `n` steps of that call on the engine. -/
theorem runSystem_advance (lib : Lib) (env : Env) (i : ℕ) :
    ∀ (n : ℕ) (s : System) (call : Call), s.calls[i]? = some call →
      (runSystem lib s (List.replicate n (.advance i env))).map (fun s' => (s'.engine, s'.calls[i]?)) =
        (Call.steps lib env n s.engine call).map fun (engine, call') => (engine, some call')
  | 0, s, call, h => by simp [runSystem, Call.steps, h]
  | n + 1, s, call, h => by
    have hi : i < s.calls.length := (List.getElem?_eq_some_iff.1 h).1
    simp only [List.replicate_succ, runSystem, System.step, h, Call.steps]
    cases call.step lib env s.engine with
    | none => rfl
    | some r =>
      obtain ⟨engine, phase, logged⟩ := r
      exact runSystem_advance lib env i n _ _ (by simp [List.getElem?_set_self hi])

/-- **A call alone is one attestation.**  Advancing a call from its skip check five times,
with nothing in between, ends it with the result and the engine of
`AttestContainerSignatures`, or panics where it does. -/
theorem run_call_eq_attest (lib : Lib) (env : Env) {s : System} {i : ℕ} {status : ContainerStatus}
    (h : s.calls[i]? = some ⟨status, .skipCheck⟩) :
    (runSystem lib s (List.replicate 5 (.advance i env))).map (fun s' => (s'.engine, s'.calls[i]?)) =
      (AttestContainerSignatures lib env s.engine status).map fun (r, engine') =>
        (engine', some ⟨status, .done r (if (ShouldSkipImage s.engine status.ImageID).1 then
          some s.engine else none)⟩) := by
  rw [runSystem_advance lib env i 5 s _ h, call_steps_eq_attest, Option.map_map]
  rfl

theorem run_call_eq_attest_signed :
    (runSystem digestLib ⟨New digestLib (NewCache 1), [⟨⟨"img", "c1"⟩, .skipCheck⟩], []⟩
        (List.replicate 5 (.advance 0 verifiedEnv))).map (fun s' => (s'.engine, s'.calls[0]?)) =
      (AttestContainerSignatures digestLib verifiedEnv (New digestLib (NewCache 1)) ⟨"img", "c1"⟩).map
        fun (r, engine') => (engine', some ⟨⟨"img", "c1"⟩,
          .done r (if (ShouldSkipImage (New digestLib (NewCache 1)) "img").1 then
            some (New digestLib (NewCache 1)) else none)⟩) :=
  run_call_eq_attest digestLib verifiedEnv rfl

/-! ### The invariant -/

/-- What a logged extraction guarantees: its fetch succeeded with its signatures, and its
extraction returned its selectors. -/
def Extraction.Valid (lib : Lib) (e : Extraction) : Prop :=
  FetchImageSignatures lib e.env e.fetchedBy e.imageID = .ok e.signatures ∧
    ExtractSelectorsFromSignatures lib e.extractedBy e.signatures e.containerID = some e.selectors

/-- Every cached list is one a logged extraction produced for its key. -/
def CacheLogged (log : List Extraction) (engine : Sigstoreimpl) : Prop :=
  ∀ item ∈ engine.sigstorecache.items, ∃ e ∈ log, e.imageID = item.Key ∧ e.selectors = item.Value

/-- What a call's phase guarantees against the log: a pending extraction had a successful
fetch, a pending store is of a logged extraction of the call's image, and a returned list is
the sentinel for an image on the skip list of the engine whose skip check answered it, or
the rendering of a logged extraction of its image. -/
def Phase.Sound (lib : Lib) (log : List Extraction) (status : ContainerStatus) : Phase → Prop
  | .skipCheck | .cacheLookup | .fetch => True
  | .extract env fetchedBy signatures =>
    FetchImageSignatures lib env fetchedBy status.ImageID = .ok signatures
  | .cacheStore e => e ∈ log ∧ e.imageID = status.ImageID
  | .done result (some engine) =>
    (ShouldSkipImage engine status.ImageID).1 = true ∧ result = .ok [signatureVerifiedSelector]
  | .done result none => ∀ L, result = .ok L →
    ∃ e ∈ log, e.imageID = status.ImageID ∧ L = selectorsString e.selectors status.ContainerID

/-- The invariant of every run. -/
structure System.Inv (lib : Lib) (s : System) : Prop where
  /-- Every logged extraction is valid. -/
  log_valid : ∀ e ∈ s.log, e.Valid lib
  /-- Every cached list was logged. -/
  cache_logged : CacheLogged s.log s.engine
  /-- Every call's phase is sound. -/
  calls_sound : ∀ call ∈ s.calls, call.phase.Sound lib s.log call.status

section Invariant

variable {lib : Lib} {log log' : List Extraction}

theorem Phase.Sound.mono {status : ContainerStatus} {p : Phase} (hl : log ⊆ log')
    (h : p.Sound lib log status) : p.Sound lib log' status := by
  cases p with
  | cacheStore e => exact ⟨hl h.1, h.2⟩
  | done result skippedBy =>
    cases skippedBy with
    | some => exact h
    | none => exact fun L hL => let ⟨e, he, hk⟩ := h L hL; ⟨e, hl he, hk⟩
  | _ => exact h

theorem CacheLogged.mono {engine : Sigstoreimpl} (hl : log ⊆ log') (h : CacheLogged log engine) :
    CacheLogged log' engine := fun item hi =>
  let ⟨e, he, hk⟩ := h item hi; ⟨e, hl he, hk⟩

theorem CacheLogged.of_subset {engine engine' : Sigstoreimpl}
    (hs : engine'.sigstorecache.items ⊆ engine.sigstorecache.items) (h : CacheLogged log engine) :
    CacheLogged log engine' := fun item hi => h item (hs hi)

/-- One step of a call logs only valid extractions, keeps every cached list logged, and
leaves the call in a sound phase. -/
theorem Call.step_inv {env : Env} {engine engine' : Sigstoreimpl} {call : Call} {phase : Phase}
    {logged : List Extraction} (hcache : CacheLogged log engine)
    (hsound : call.phase.Sound lib log call.status)
    (h : call.step lib env engine = some (engine', phase, logged)) :
    (∀ e ∈ logged, e.Valid lib) ∧ CacheLogged (log ++ logged) engine' ∧
      phase.Sound lib (log ++ logged) call.status := by
  have hl : log ⊆ log ++ logged := List.subset_append_left _ _
  obtain ⟨status, phase₀⟩ := call
  cases phase₀ with
  | skipCheck =>
    rw [Call.step_skipCheck] at h
    split_ifs at h with hskip <;> cases h
    · exact ⟨by simp, hcache.mono hl, hskip, rfl⟩
    · exact ⟨by simp, hcache.mono hl, trivial⟩
  | cacheLookup =>
    simp only [Call.step] at h
    rcases hget : getElement engine.sigstorecache.items status.ImageID with _ | item
    · rw [getSignature_of_getElement_none hget] at h
      cases h
      exact ⟨by simp, hcache.mono hl, trivial⟩
    · rw [getSignature_of_getElement_some hget] at h
      cases h
      obtain ⟨hmem, hkey⟩ := getElement_eq_some hget
      obtain ⟨e, he, hk, hv⟩ := hcache item hmem
      refine ⟨by simp, (hcache.of_subset (perm_moveToFront hget).subset).mono hl,
        fun L hL => ⟨e, hl he, hk.trans hkey, ?_⟩⟩
      cases hL
      rw [hv]
  | fetch =>
    simp only [Call.step] at h
    split at h <;> cases h
    · exact ⟨by simp, hcache.mono hl, fun L hL => by cases hL⟩
    · exact ⟨by simp, hcache.mono hl, ‹_›⟩
  | extract env' fetchedBy signatures =>
    simp only [Call.step, Option.map_eq_some', Prod.mk.injEq] at h
    obtain ⟨selectors, hx, rfl, rfl, rfl⟩ := h
    exact ⟨by simpa [Extraction.Valid] using ⟨hsound, hx⟩, hcache.mono hl, by simp, rfl⟩
  | cacheStore e =>
    simp only [Call.step, Option.map_eq_some', Prod.mk.injEq] at h
    obtain ⟨c, hc, rfl, rfl, rfl⟩ := h
    obtain ⟨he, hk⟩ := hsound
    refine ⟨by simp, fun item hi => ?_, fun L hL => ⟨e, hl he, hk, by cases hL; rfl⟩⟩
    rcases (putSignature_cases hc).2 with ⟨-, hp⟩ | ⟨-, -, hi'⟩ | ⟨-, -, -, hi'⟩
    · exact hcache.mono hl item (hp.subset hi)
    all_goals
      rw [hi'] at hi
      rcases List.mem_cons.1 hi with rfl | hi
      · exact ⟨e, hl he, hk, rfl⟩
      · exact hcache.mono hl item (by first | exact hi | exact List.dropLast_subset _ hi)
  | done result skippedBy =>
    simp only [Call.step] at h
    cases h
    exact ⟨by simp, hcache.mono hl, hsound.mono hl⟩

/-- Every step keeps the invariant. -/
theorem System.Inv.step {s s' : System} {ev : Event} (hs : s.Inv lib) (h : s.step lib ev = some s') :
    s'.Inv lib := by
  cases ev with
  | attest status =>
    cases h
    refine ⟨hs.log_valid, hs.cache_logged, fun call hc => ?_⟩
    rcases List.mem_append.1 hc with hc | hc
    · exact hs.calls_sound call hc
    · rw [List.mem_singleton.1 hc]; trivial
  | advance i env =>
    simp only [System.step] at h
    split at h
    · cases h; exact hs
    · next call hcall =>
      simp only [Option.map_eq_some'] at h
      obtain ⟨⟨engine, phase, logged⟩, hstep, rfl⟩ := h
      obtain ⟨hv, hc, hp⟩ :=
        Call.step_inv hs.cache_logged (hs.calls_sound call (List.getElem?_mem hcall)) hstep
      have hl : s.log ⊆ s.log ++ logged := List.subset_append_left _ _
      refine ⟨fun e he => ?_, hc, fun c hmem => ?_⟩
      · rcases List.mem_append.1 he with he | he
        exacts [hs.log_valid e he, hv e he]
      · rcases List.mem_or_eq_of_mem_set hmem with hmem | rfl
        exacts [(hs.calls_sound c hmem).mono hl, hp]
  | policy op =>
    simp only [System.step, Option.map_eq_some'] at h
    obtain ⟨engine, hop, rfl⟩ := h
    have hcache := (PolicyOp.apply_frame hop).2
    exact ⟨hs.log_valid, fun item hi => hs.cache_logged item (by rwa [← hcache]), hs.calls_sound⟩
  | setRekorURL rekorURL =>
    cases h
    refine ⟨hs.log_valid, hs.cache_logged.of_subset ?_, hs.calls_sound⟩
    rcases setRekorURL_cases lib s.engine rekorURL with ⟨_, he⟩ | ⟨_, -, -, he⟩ <;>
      simp [he]

theorem System.inv_init (N : ℤ) : (System.init lib N).Inv lib :=
  ⟨by simp [System.init], by simp [CacheLogged, System.init, New], by simp [System.init]⟩

/-- Every run keeps the invariant. -/
theorem runSystem_inv : ∀ (events : List Event) {s s' : System}, s.Inv lib →
    runSystem lib s events = some s' → s'.Inv lib
  | [], _, _, hs, h => by cases h; exact hs
  | ev :: evs, s, _, hs, h => by
    simp only [runSystem, Option.bind_eq_some] at h
    obtain ⟨s₁, h₁, h⟩ := h
    exact runSystem_inv evs (hs.step h₁) h

end Invariant

/-! ### What every run guarantees -/

/-- A valid extraction's selectors are verified, with non-empty subjects the allow list
admitted when it ran. -/
theorem Extraction.Valid.selectors {lib : Lib} {e : Extraction} (he : e.Valid lib) :
    ∀ v ∈ e.selectors, v.Verified = true ∧ v.Subject ≠ "" ∧
      suppressed e.extractedBy v.Subject = false ∧
      ∃ sig ∈ e.signatures, getSignatureSubject sig = some v.Subject :=
  mem_extract lib e.extractedBy he.2

/-- A rendering that holds the sentinel renders a selector, and its subject. -/
theorem selectorsString_sentinel {V : List SelectorsFromSignatures} {containerID : String}
    (h : signatureVerifiedSelector ∈ selectorsString V containerID)
    (hV : ∀ v ∈ V, v.Subject ≠ "") :
    ∃ v ∈ V, containerID ++ ":image-signature-subject:" ++ v.Subject ∈ selectorsString V containerID := by
  cases V with
  | nil => simp [selectorsString] at h
  | cons v V =>
    refine ⟨v, List.mem_cons_self _ _, ?_⟩
    simp only [selectorsString, List.length_cons, Nat.zero_lt_succ, if_true, List.flatMap_cons]
    exact List.mem_append_left _ (List.mem_append_left _
      (subject_mem_selectorsToString (hV v (List.mem_cons_self _ _)) containerID))

/-- **Provenance over every run.**  Over every run from `New`: every cached list was
extracted for its key from signatures a successful fetch returned, and its selectors are
verified with non-empty subjects the allow list admitted then; a failed fetch ends its call
with the error and changes nothing else; and a call that returns the sentinel had its image
on the skip list its skip check read, or returns the subject selector of a signature of a
successful fetch of its image, whose subject the allow list admitted at the extraction. -/
theorem attest_provenance (lib : Lib) (N : ℤ) (events : List Event) {s : System}
    (hrun : runSystem lib (System.init lib N) events = some s) :
    (∀ item ∈ s.engine.sigstorecache.items, ∃ e ∈ s.log, e.Valid lib ∧ e.imageID = item.Key ∧
      e.selectors = item.Value ∧ ∀ v ∈ item.Value, v.Verified = true ∧ v.Subject ≠ "" ∧
        suppressed e.extractedBy v.Subject = false) ∧
    (∀ i env status err, s.calls[i]? = some ⟨status, .fetch⟩ →
      FetchImageSignatures lib env s.engine status.ImageID = .error err →
      s.step lib (.advance i env) = some { s with calls := s.calls.set i ⟨status, .done (.error err) none⟩ }) ∧
    (∀ call ∈ s.calls, ∀ L skippedBy, call.phase = .done (.ok L) skippedBy →
      signatureVerifiedSelector ∈ L →
      (∃ engine, skippedBy = some engine ∧ call.status.ImageID ∈ (policyOf engine).skipList) ∨
      ∃ subject, call.status.ContainerID ++ ":image-signature-subject:" ++ subject ∈ L ∧
        ∃ e ∈ s.log, e.Valid lib ∧ e.imageID = call.status.ImageID ∧
          suppressed e.extractedBy subject = false ∧
          ∃ sig ∈ e.signatures, getSignatureSubject sig = some subject) := by
  have hs := runSystem_inv events (System.inv_init N) hrun
  refine ⟨fun item hi => ?_, fun i env status err hcall hf => ?_, fun call hc L skippedBy hp hL => ?_⟩
  · obtain ⟨e, he, hk, hv⟩ := hs.cache_logged item hi
    refine ⟨e, he, hs.log_valid e he, hk, hv, fun v hvi => ?_⟩
    obtain ⟨h₁, h₂, h₃, -⟩ := (hs.log_valid e he).selectors v (hv ▸ hvi)
    exact ⟨h₁, h₂, h₃⟩
  · simp [System.step, hcall, Call.step, hf]
  · have hsound := hs.calls_sound call hc
    rw [hp] at hsound
    cases skippedBy with
    | some engine => exact .inl ⟨engine, rfl, mem_skipList_of_shouldSkipImage hsound.1⟩
    | none =>
      obtain ⟨e, he, hk, rfl⟩ := hsound L rfl
      have hvalid := hs.log_valid e he
      obtain ⟨v, hv, hmem⟩ :=
        selectorsString_sentinel hL fun v hv => (hvalid.selectors v hv).2.1
      obtain ⟨-, -, hsup, sig, hsig, hsub⟩ := hvalid.selectors v hv
      exact .inr ⟨v.Subject, hmem, e, he, hvalid, hk, hsup, sig, hsig, hsub⟩

/-- **What a call returns.**  Over every run from `New`, a call the skip list answered
returned the sentinel alone, for an image on the skip list its skip check read; any other
call that returned a list returned the rendering, for its container, of a list extracted for
its image from a successful fetch, whose subjects the allow list admitted at that extraction;
and if the list holds the sentinel it holds the subject selector of one of them. -/
theorem served_selectors_allowed_at_extraction (lib : Lib) (N : ℤ) (events : List Event)
    {s : System} (hrun : runSystem lib (System.init lib N) events = some s) :
    ∀ call ∈ s.calls, ∀ L skippedBy, call.phase = .done (.ok L) skippedBy →
      (∃ engine, skippedBy = some engine ∧ call.status.ImageID ∈ (policyOf engine).skipList ∧
        L = [signatureVerifiedSelector]) ∨
      ∃ e ∈ s.log, e.Valid lib ∧ e.imageID = call.status.ImageID ∧
        L = selectorsString e.selectors call.status.ContainerID ∧
        (∀ v ∈ e.selectors, v.Verified = true ∧ v.Subject ≠ "" ∧
          suppressed e.extractedBy v.Subject = false) ∧
        (signatureVerifiedSelector ∈ L →
          ∃ v ∈ e.selectors, call.status.ContainerID ++ ":image-signature-subject:" ++ v.Subject ∈ L) := by
  have hs := runSystem_inv events (System.inv_init N) hrun
  intro call hc L skippedBy hp
  have hsound := hs.calls_sound call hc
  rw [hp] at hsound
  cases skippedBy with
  | some engine =>
    obtain ⟨hskip, hr⟩ := hsound
    cases hr
    exact .inl ⟨engine, rfl, mem_skipList_of_shouldSkipImage hskip, rfl⟩
  | none =>
    obtain ⟨e, he, hk, rfl⟩ := hsound L rfl
    have hvalid := hs.log_valid e he
    refine .inr ⟨e, he, hvalid, hk, rfl, fun v hv => ?_, fun hL =>
      selectorsString_sentinel hL fun v hv => (hvalid.selectors v hv).2.1⟩
    obtain ⟨h₁, h₂, h₃, -⟩ := hvalid.selectors v hv
    exact ⟨h₁, h₂, h₃⟩

/-! ### The cache across interleavings -/

section SharedCache

variable {lib : Lib}

/-- What a call's step does to the engine is a sequence of the cache's own calls on its
cache, a hit's `GetSignature` or a store's `PutSignature`; nothing else of the engine
changes. -/
theorem Call.step_cache {env : Env} {engine engine' : Sigstoreimpl} {call : Call} {phase : Phase}
    {logged : List Extraction} (h : call.step lib env engine = some (engine', phase, logged)) :
    engine' = { engine with sigstorecache := engine'.sigstorecache } ∧
      ∃ ops, runCache engine.sigstorecache ops = some engine'.sigstorecache := by
  obtain ⟨status, phase₀⟩ := call
  cases phase₀ with
  | skipCheck => rw [Call.step_skipCheck] at h; split_ifs at h <;> cases h <;> exact ⟨rfl, [], rfl⟩
  | cacheLookup =>
    rcases hget : getElement engine.sigstorecache.items status.ImageID with _ | item
    · rw [Call.step_cacheLookup_miss hget] at h; cases h; exact ⟨rfl, [], rfl⟩
    · rw [Call.step_cacheLookup_hit hget] at h; cases h; exact ⟨rfl, [.get status.ImageID], rfl⟩
  | fetch => rw [Call.step_fetch] at h; split at h <;> cases h <;> exact ⟨rfl, [], rfl⟩
  | extract =>
    obtain ⟨_, -, h⟩ := Option.map_eq_some'.1 (Call.step_extract.symm.trans h)
    cases h
    exact ⟨rfl, [], rfl⟩
  | cacheStore e =>
    obtain ⟨c, hc, h⟩ := Option.map_eq_some'.1 (Call.step_cacheStore.symm.trans h)
    cases h
    exact ⟨rfl, [.put ⟨status.ImageID, e.selectors⟩], by simp [CacheOp.apply, hc]⟩
  | done => cases h; exact ⟨rfl, [], rfl⟩

/-- What a step does to the cache is a sequence of the cache's own calls. -/
theorem System.step_cache {s s' : System} {ev : Event} (h : s.step lib ev = some s') :
    ∃ ops, runCache s.engine.sigstorecache ops = some s'.engine.sigstorecache := by
  cases ev with
  | attest => cases h; exact ⟨[], rfl⟩
  | advance i env =>
    simp only [System.step] at h
    split at h
    · cases h; exact ⟨[], rfl⟩
    · obtain ⟨⟨engine, phase, logged⟩, hstep, rfl⟩ := Option.map_eq_some'.1 h
      exact (Call.step_cache hstep).2
  | policy op =>
    obtain ⟨engine, hop, rfl⟩ := Option.map_eq_some'.1 h
    exact ⟨[], by rw [(PolicyOp.apply_frame hop).2]; rfl⟩
  | setRekorURL rekorURL =>
    cases h
    refine ⟨[], ?_⟩
    rcases setRekorURL_cases lib s.engine rekorURL with ⟨_, he⟩ | ⟨_, -, -, he⟩ <;> simp [he]

/-- What a run does to the cache is a run of the cache. -/
theorem runSystem_cache : ∀ (events : List Event) {s s' : System},
    runSystem lib s events = some s' →
      ∃ ops, runCache s.engine.sigstorecache ops = some s'.engine.sigstorecache
  | [], _, _, h => by cases h; exact ⟨[], rfl⟩
  | ev :: evs, _, _, h => by
    simp only [runSystem, Option.bind_eq_some] at h
    obtain ⟨s₁, h₁, h⟩ := h
    obtain ⟨ops₁, hops₁⟩ := System.step_cache h₁
    obtain ⟨ops₂, hops₂⟩ := runSystem_cache evs h
    exact ⟨ops₁ ++ ops₂, by rw [runCache_append, hops₁, Option.some_bind, hops₂]⟩

/-- Every run keeps the cache's capacity. -/
theorem runSystem_size (events : List Event) {s s' : System} (h : runSystem lib s events = some s') :
    s'.engine.sigstorecache.size = s.engine.sigstorecache.size :=
  let ⟨_, hops⟩ := runSystem_cache events h
  runCache_size hops

end SharedCache

/-- **The shared cache stays a cache.**  Over every run from `New` on a cache of capacity
`N ≥ 1`, however the calls' atomic steps interleave, the cache is in a state that the cache reaches by a
sequence of its own calls: its keys are distinct, it holds at most `N` items, and each of them
was put by one of those calls. -/
theorem system_cache_reachable (lib : Lib) {N : ℤ} (hN : 1 ≤ N) (events : List Event) {s : System}
    (hrun : runSystem lib (System.init lib N) events = some s) :
    ∃ ops, runCache (NewCache N) ops = some s.engine.sigstorecache ∧
      s.engine.sigstorecache.keys.Nodup ∧ (s.engine.sigstorecache.items.length : ℤ) ≤ N ∧
      ∀ i ∈ s.engine.sigstorecache.items, i ∈ putItems ops := by
  obtain ⟨ops, hops⟩ := runSystem_cache events hrun
  obtain ⟨c, hc, hinv, hsize⟩ :=
    cacheInv_run (cacheInv_newCache N (by omega)) (by simpa using hN) ops
  obtain rfl : c = s.engine.sigstorecache := Option.some.inj (hc.symm.trans hops)
  refine ⟨ops, hops, hinv.nodup, ?_, by simpa using hinv.mem_put⟩
  simpa [hsize] using hinv.length_le

/-! ### Policy and endpoint across interleavings -/

/-- The policy call an event makes, if it is one. -/
def Event.policyOp? : Event → Option PolicyOp
  | .policy op => some op
  | _ => none

/-- The endpoint an event sets, if it is a `SetRekorURL` call. -/
def Event.rekorURL? : Event → Option String
  | .setRekorURL rekorURL => some rekorURL
  | _ => none

section Config

variable {lib : Lib}

/-- One step moves the policy by its policy call and the endpoint by its `SetRekorURL` call,
and by nothing else. -/
theorem System.step_config {s s' : System} {ev : Event} (h : s.step lib ev = some s') :
    policyOf s'.engine = (policyOf s.engine).run ([ev].filterMap Event.policyOp?) ∧
      s'.engine.rekorURL = (setRekorURLs lib s.engine ([ev].filterMap Event.rekorURL?)).rekorURL := by
  cases ev with
  | attest => cases h; exact ⟨rfl, rfl⟩
  | advance i env =>
    simp only [System.step] at h
    split at h
    · cases h; exact ⟨rfl, rfl⟩
    · obtain ⟨⟨engine, phase, logged⟩, hstep, rfl⟩ := Option.map_eq_some'.1 h
      rw [(Call.step_cache hstep).1]
      exact ⟨rfl, rfl⟩
  | policy op =>
    obtain ⟨engine, hop, rfl⟩ := Option.map_eq_some'.1 h
    obtain ⟨engine', hop', hp⟩ := PolicyOp.apply_refines s.engine op
    obtain rfl : engine' = engine := Option.some.inj (hop'.symm.trans hop)
    exact ⟨hp, (PolicyOp.apply_frame hop).1⟩
  | setRekorURL rekorURL =>
    cases h
    refine ⟨?_, rfl⟩
    rcases setRekorURL_cases lib s.engine rekorURL with ⟨_, he⟩ | ⟨_, -, -, he⟩ <;>
      simp only [he] <;> rfl

/-- A run moves the policy by its policy calls and the endpoint by its `SetRekorURL` calls. -/
theorem runSystem_config : ∀ (events : List Event) {s s' : System},
    runSystem lib s events = some s' →
      policyOf s'.engine = (policyOf s.engine).run (events.filterMap Event.policyOp?) ∧
        s'.engine.rekorURL = (setRekorURLs lib s.engine (events.filterMap Event.rekorURL?)).rekorURL
  | [], _, _, h => by cases h; exact ⟨rfl, rfl⟩
  | ev :: evs, s, _, h => by
    simp only [runSystem, Option.bind_eq_some] at h
    obtain ⟨s₁, h₁, h⟩ := h
    obtain ⟨hp₁, hu₁⟩ := System.step_config h₁
    obtain ⟨hp, hu⟩ := runSystem_config evs h
    rw [← List.singleton_append, List.filterMap_append, List.filterMap_append,
      PolicySets.run_append, setRekorURLs_append, ← hp₁, hp, hu]
    exact ⟨rfl, setRekorURLs_rekorURL_congr lib hu₁ _⟩

end Config

/-- **Attestations never move the configuration.**  Over every run from `New`, however the
calls interleave with the policy and endpoint calls, the engine's policy is the abstract run
of the run's policy calls alone, and its endpoint is where the run's `SetRekorURL` calls alone
take `New`'s. -/
theorem system_config_refines (lib : Lib) (N : ℤ) (events : List Event) {s : System}
    (hrun : runSystem lib (System.init lib N) events = some s) :
    policyOf s.engine = PolicySets.empty.run (events.filterMap Event.policyOp?) ∧
      s.engine.rekorURL =
        (setRekorURLs lib (New lib (NewCache N)) (events.filterMap Event.rekorURL?)).rekorURL :=
  runSystem_config events hrun

/-- A run in which a call's steps interleave with a skip-list addition and an endpoint call. -/
def configRun : List Event :=
  [.attest ⟨"img", "c1"⟩, .advance 0 verifiedEnv, .policy (.addSkippedImage "img"),
    .advance 0 verifiedEnv, .setRekorURL "https://rekor.example", .advance 0 verifiedEnv,
    .policy (.enableAllowSubjectList true)]

theorem system_config_refines_configRun :
    ∃ s, runSystem digestLib (System.init digestLib 1) configRun = some s ∧
      policyOf s.engine = PolicySets.empty.run (configRun.filterMap Event.policyOp?) ∧
      s.engine.rekorURL = (setRekorURLs digestLib (New digestLib (NewCache 1))
        (configRun.filterMap Event.rekorURL?)).rekorURL :=
  ⟨_, rfl, system_config_refines digestLib 1 configRun rfl⟩

/-! ### The only panic -/

/-- A call's step panics, on a cache of capacity at least `1`, only in an extraction that
panics. -/
theorem Call.step_eq_none {lib : Lib} {env : Env} {engine : Sigstoreimpl} {call : Call}
    (hs : 1 ≤ engine.sigstorecache.size) (h : call.step lib env engine = none) :
    ∃ env' fetchedBy signatures, call.phase = .extract env' fetchedBy signatures ∧
      ExtractSelectorsFromSignatures lib engine signatures call.status.ContainerID = none := by
  obtain ⟨status, phase₀⟩ := call
  cases phase₀ with
  | skipCheck => simp only [Call.step] at h; split_ifs at h
  | cacheLookup => simp only [Call.step] at h; split at h <;> cases h
  | fetch => simp only [Call.step] at h; split at h <;> cases h
  | extract env' fetchedBy signatures =>
    exact ⟨env', fetchedBy, signatures, rfl, Option.map_eq_none'.1 h⟩
  | cacheStore e =>
    have hsome := putSignature_isSome (c := engine.sigstorecache) ⟨status.ImageID, e.selectors⟩
      fun hfull he => by rw [he] at hfull; simp at hfull; omega
    simp only [Call.step, Option.map_eq_none'] at h
    simp [h] at hsome
  | done => cases h

/-- **The only panic.**  Over every run from `New` on a cache of capacity at least `1`, with
a non-nil logger as `Sigstoreimpl` assumes, a step panics only when a call extracts, from
the signatures its fetch returned, a signature with a non-empty subject the allow list
admits whose `Bundle()` is `(nil, nil)`. -/
theorem attest_panics_only_on_nil_bundle (lib : Lib) {N : ℤ} (hN : 1 ≤ N) (events : List Event)
    {s : System} (hrun : runSystem lib (System.init lib N) events = some s) {ev : Event}
    (h : s.step lib ev = none) :
    ∃ i env call env' fetchedBy signatures, ev = .advance i env ∧ s.calls[i]? = some call ∧
      call.phase = .extract env' fetchedBy signatures ∧
      ∃ sig ∈ signatures, ∃ signature subject, sig = some signature ∧
        getSignatureSubject sig = some subject ∧ subject ≠ "" ∧
        suppressed s.engine subject = false ∧ signature.Bundle = .ok none := by
  have hsize : s.engine.sigstorecache.size = N := runSystem_size events hrun
  cases ev with
  | attest => cases h
  | policy op =>
    obtain ⟨_, hop, -⟩ := PolicyOp.apply_refines s.engine op
    simp [System.step, hop] at h
  | setRekorURL => cases h
  | advance i env =>
    simp only [System.step] at h
    split at h
    · cases h
    · next call hcall =>
      obtain ⟨env', fetchedBy, signatures, hphase, hx⟩ :=
        Call.step_eq_none (hsize ▸ hN) (Option.map_eq_none'.1 h)
      obtain ⟨sig, hsig, hnone⟩ := (extract_eq_none_iff lib s.engine signatures _).1 hx
      obtain ⟨signature, subject, rfl, hsub, hne, hsup, hb⟩ :=
        (selectorValues_eq_none_iff lib s.engine sig _).1 hnone
      exact ⟨i, env, call, env', fetchedBy, signatures, rfl, hcall, hphase, _, hsig, signature,
        subject, rfl, hsub, hne, hsup, hb⟩

theorem attest_panics_only_on_nil_bundle_unbundled :
    ∃ s, runSystem digestLib (System.init digestLib 1)
        (.attest ⟨"img", "c1"⟩ :: List.replicate 3 (.advance 0 signedEnv)) = some s ∧
      ∃ i env call env' fetchedBy signatures, Event.advance 0 signedEnv = .advance i env ∧
        s.calls[i]? = some call ∧ call.phase = .extract env' fetchedBy signatures ∧
        ∃ sig ∈ signatures, ∃ signature subject, sig = some signature ∧
          getSignatureSubject sig = some subject ∧ subject ≠ "" ∧
          suppressed s.engine subject = false ∧ signature.Bundle = .ok none :=
  ⟨_, rfl, attest_panics_only_on_nil_bundle digestLib le_rfl
    (.attest ⟨"img", "c1"⟩ :: List.replicate 3 (.advance 0 signedEnv)) rfl rfl⟩

/-! ### A cached subject once the allow list is on -/

/-- A run: one container of an image attested to the end, the allow list turned on, and a
second container of the image attested through the cache. -/
def allowListRun : List Event :=
  .attest ⟨"img", "c1"⟩ :: List.replicate 5 (.advance 0 verifiedEnv) ++
    [.policy (.enableAllowSubjectList true), .attest ⟨"img", "c2"⟩, .advance 1 verifiedEnv,
      .advance 1 verifiedEnv]

theorem attest_provenance_allowListRun :
    ∃ s, runSystem digestLib (System.init digestLib 1) allowListRun = some s ∧
      ∀ item ∈ s.engine.sigstorecache.items, ∃ e ∈ s.log, e.Valid digestLib ∧ e.imageID = item.Key ∧
        e.selectors = item.Value ∧ ∀ v ∈ item.Value, v.Verified = true ∧ v.Subject ≠ "" ∧
          suppressed e.extractedBy v.Subject = false :=
  ⟨_, rfl, (attest_provenance digestLib 1 allowListRun rfl).1⟩

theorem served_selectors_allowListRun :
    ∃ s, runSystem digestLib (System.init digestLib 1) allowListRun = some s ∧
      ∀ call ∈ s.calls, ∀ L skippedBy, call.phase = .done (.ok L) skippedBy →
        (∃ engine, skippedBy = some engine ∧ call.status.ImageID ∈ (policyOf engine).skipList ∧
          L = [signatureVerifiedSelector]) ∨
        ∃ e ∈ s.log, e.Valid digestLib ∧ e.imageID = call.status.ImageID ∧
          L = selectorsString e.selectors call.status.ContainerID ∧
          (∀ v ∈ e.selectors, v.Verified = true ∧ v.Subject ≠ "" ∧
            suppressed e.extractedBy v.Subject = false) ∧
          (signatureVerifiedSelector ∈ L →
            ∃ v ∈ e.selectors, call.status.ContainerID ++ ":image-signature-subject:" ++ v.Subject ∈ L) :=
  ⟨_, rfl, served_selectors_allowed_at_extraction digestLib 1 allowListRun rfl⟩

/-- Attesting an image while the allow list is off caches its subject; once the allow list
is on, and empty, a second container of the image is still served that subject, which the
allow check now suppresses. -/
theorem cache_hit_serves_suppressed_subject :
    ∃ s₁ s₂ s₃, AttestContainerSignatures digestLib verifiedEnv (New digestLib (NewCache 1))
        ⟨"img", "c1"⟩ = some (.ok ["c1:image-signature-subject:spirex@example.com",
          signatureVerifiedSelector], s₁) ∧
      (PolicyOp.enableAllowSubjectList true).apply s₁ = some s₂ ∧
      AttestContainerSignatures digestLib verifiedEnv s₂ ⟨"img", "c2"⟩ =
        some (.ok ["c2:image-signature-subject:spirex@example.com", signatureVerifiedSelector], s₃) ∧
      suppressed s₂ "spirex@example.com" = true :=
  ⟨_, _, _, rfl, rfl, rfl, rfl⟩

end Sigstore
