import SigstoreAttestor.Fetch

/-!
# Attesting a container

`AttestContainerSignatures` answers a skip-listed image with the sentinel alone.  Otherwise
it looks the image up in the cache; on a miss it fetches the image's verified signatures,
extracts their selectors, and caches them under the image ID.  A hit or a miss then renders
the selector list for the container, each selector's text followed by the sentinel when the
list is non-empty.  A fetch error is returned as is, and the cache is written only after a
successful fetch and extraction.

Extraction does not read the container ID, so the cached list is the same whichever
container of an image came first, and a hit renders for the asking container exactly what
a miss would have.

## Main definitions

* `ContainerStatus` — the container asked about.
* `selectorsString` — the rendering of a selector list.
* `AttestContainerSignatures` — one attestation.

## Main results

* `attest_cases` — everything one call can do.
* `extract_containerID` — extraction does not depend on the container.
* `cache_hit_matches_miss` — a hit after a miss renders the cached list, without the
  verifier, as the miss would have for the second container.
-/

namespace Sigstore

/-- `signatureVerifiedSelector`, appended when signatures were verified. -/
def signatureVerifiedSelector : String := "sigstore-validation:passed"

/-- A `corev1.ContainerStatus`, by the two fields the engine reads. -/
structure ContainerStatus where
  /-- The image's ID. -/
  ImageID : String
  /-- The container's ID. -/
  ContainerID : String
  deriving Repr, DecidableEq

/-- The selectors returned for a cached list: each selector's text, then the sentinel, or
nothing for an empty list. -/
def selectorsString (selectors : List SelectorsFromSignatures) (containerID : String) : List String :=
  if selectors.length > 0 then
    selectors.flatMap (selectorsToString · containerID) ++ [signatureVerifiedSelector]
  else []

/-- `AttestContainerSignatures`: the selectors or the fetch's error, and the engine after the
call; `none` where it panics.  The skip check's error is ignored. -/
def AttestContainerSignatures (lib : Lib) (env : Env) (sigstore : Sigstoreimpl)
    (status : ContainerStatus) : Option (Except String (List String) × Sigstoreimpl) :=
  if (ShouldSkipImage sigstore status.ImageID).1 then
    some (.ok [signatureVerifiedSelector], sigstore)
  else
    let cacheKey := status.ImageID
    match sigstore.sigstorecache.GetSignature cacheKey with
    | (some cachedSignature, sigstorecache) =>
      some (.ok (selectorsString cachedSignature.Value status.ContainerID), { sigstore with sigstorecache })
    | (none, _) =>
      -- a miss leaves the cache as it was
      match FetchImageSignatures lib env sigstore status.ImageID with
      | .error err => some (.error err, sigstore)
      | .ok signatures => do
        let selectors ← ExtractSelectorsFromSignatures lib sigstore signatures status.ContainerID
        let sigstorecache ← sigstore.sigstorecache.PutSignature ⟨cacheKey, selectors⟩
        pure (.ok (selectorsString selectors status.ContainerID), { sigstore with sigstorecache })

/-! ### One call -/

section Call

variable {lib : Lib} {env : Env} {sigstore sigstore' : Sigstoreimpl} {status : ContainerStatus}

/-- The engine with another cache. -/
theorem shouldSkipImage_withCache (c : Cacheimpl (List SelectorsFromSignatures)) (imageID : String) :
    ShouldSkipImage { sigstore with sigstorecache := c } imageID = ShouldSkipImage sigstore imageID :=
  rfl

/-- Everything one call can do: answer a skip-listed image with the sentinel; render a hit,
moving it to the front; return a failed fetch's error; or render and cache the selectors of
a successful fetch. -/
theorem attest_cases {r : Except String (List String)}
    (h : AttestContainerSignatures lib env sigstore status = some (r, sigstore')) :
    ((ShouldSkipImage sigstore status.ImageID).1 = true ∧ r = .ok [signatureVerifiedSelector] ∧
      sigstore' = sigstore) ∨
    ((ShouldSkipImage sigstore status.ImageID).1 = false ∧ ∃ item,
      getElement sigstore.sigstorecache.items status.ImageID = some item ∧
      r = .ok (selectorsString item.Value status.ContainerID) ∧
      sigstore' = { sigstore with sigstorecache := (sigstore.sigstorecache.GetSignature status.ImageID).2 }) ∨
    ((ShouldSkipImage sigstore status.ImageID).1 = false ∧
      getElement sigstore.sigstorecache.items status.ImageID = none ∧ ∃ err,
      FetchImageSignatures lib env sigstore status.ImageID = .error err ∧ r = .error err ∧
      sigstore' = sigstore) ∨
    ((ShouldSkipImage sigstore status.ImageID).1 = false ∧
      getElement sigstore.sigstorecache.items status.ImageID = none ∧ ∃ signatures selectors c,
      FetchImageSignatures lib env sigstore status.ImageID = .ok signatures ∧
      ExtractSelectorsFromSignatures lib sigstore signatures status.ContainerID = some selectors ∧
      sigstore.sigstorecache.PutSignature ⟨status.ImageID, selectors⟩ = some c ∧
      r = .ok (selectorsString selectors status.ContainerID) ∧
      sigstore' = { sigstore with sigstorecache := c }) := by
  unfold AttestContainerSignatures at h
  split_ifs at h with hskip
  · cases h; exact .inl ⟨hskip, rfl, rfl⟩
  rw [Bool.not_eq_true] at hskip
  rcases hget : getElement sigstore.sigstorecache.items status.ImageID with _ | item
  · simp only [getSignature_of_getElement_none hget] at h
    rcases hf : FetchImageSignatures lib env sigstore status.ImageID with err | signatures <;>
      simp only [hf, Option.some.injEq, Prod.mk.injEq, Option.bind_eq_bind, Option.bind_eq_some,
        pure] at h
    · obtain ⟨rfl, rfl⟩ := h
      exact .inr (.inr (.inl ⟨hskip, rfl, err, rfl, rfl, rfl⟩))
    · obtain ⟨selectors, hx, c, hc, rfl, rfl⟩ := h
      exact .inr (.inr (.inr ⟨hskip, rfl, signatures, selectors, c, rfl, hx, hc, rfl, rfl⟩))
  · simp only [getSignature_of_getElement_some hget, Option.some.injEq, Prod.mk.injEq] at h
    obtain ⟨rfl, rfl⟩ := h
    exact .inr (.inl ⟨hskip, item, rfl, rfl, by rw [getSignature_of_getElement_some hget]⟩)

/-- A hit renders the cached list and asks nothing of the registry or the verifier. -/
theorem attest_hit {item : Item (List SelectorsFromSignatures)}
    (hskip : (ShouldSkipImage sigstore status.ImageID).1 = false)
    (hget : getElement sigstore.sigstorecache.items status.ImageID = some item) :
    AttestContainerSignatures lib env sigstore status =
      some (.ok (selectorsString item.Value status.ContainerID),
        { sigstore with sigstorecache := (sigstore.sigstorecache.GetSignature status.ImageID).2 }) := by
  simp [AttestContainerSignatures, hskip, getSignature_of_getElement_some hget]

/-- A miss whose fetch, extraction and insertion succeed renders and caches the selectors. -/
theorem attest_miss {signatures : List (Option Signature)} {selectors : List SelectorsFromSignatures}
    {c : Cacheimpl (List SelectorsFromSignatures)}
    (hskip : (ShouldSkipImage sigstore status.ImageID).1 = false)
    (hget : getElement sigstore.sigstorecache.items status.ImageID = none)
    (hf : FetchImageSignatures lib env sigstore status.ImageID = .ok signatures)
    (hx : ExtractSelectorsFromSignatures lib sigstore signatures status.ContainerID = some selectors)
    (hc : sigstore.sigstorecache.PutSignature ⟨status.ImageID, selectors⟩ = some c) :
    AttestContainerSignatures lib env sigstore status =
      some (.ok (selectorsString selectors status.ContainerID), { sigstore with sigstorecache := c }) := by
  simp [AttestContainerSignatures, hskip, getSignature_of_getElement_none hget, hf, hx, hc]

end Call

/-- Extraction does not depend on the container. -/
theorem extract_containerID (lib : Lib) (sigstore : Sigstoreimpl) (signatures : List (Option Signature))
    (c₁ c₂ : String) :
    ExtractSelectorsFromSignatures lib sigstore signatures c₁ =
      ExtractSelectorsFromSignatures lib sigstore signatures c₂ := by
  induction signatures with
  | nil => rfl
  | cons sig sigs ih => simp only [ExtractSelectorsFromSignatures, ih]; rfl

/-! ### A hit after a miss -/

/-- **A hit matches a miss.**  From an engine where an image is neither skip-listed nor
cached, if attesting it for container `c1` returns `L1`, then attesting it next for `c2`
returns, whatever the registry and the verifier would answer, the rendering for `c2` of the
list `L1` renders for `c1`; and attesting it for `c2` from the original engine, with the same
answers, would have returned the same. -/
theorem cache_hit_matches_miss (lib : Lib) (env : Env) (sigstore sigstore₁ : Sigstoreimpl)
    (imageID c1 c2 : String) (L1 : List String)
    (hskip : (ShouldSkipImage sigstore imageID).1 = false)
    (hmiss : getElement sigstore.sigstorecache.items imageID = none)
    (h1 : AttestContainerSignatures lib env sigstore ⟨imageID, c1⟩ = some (.ok L1, sigstore₁)) :
    ∃ V, L1 = selectorsString V c1 ∧
      (∀ env', ∃ sigstore₂, AttestContainerSignatures lib env' sigstore₁ ⟨imageID, c2⟩ =
        some (.ok (selectorsString V c2), sigstore₂)) ∧
      (AttestContainerSignatures lib env sigstore ⟨imageID, c2⟩).map Prod.fst =
        some (.ok (selectorsString V c2)) := by
  rcases attest_cases h1 with ⟨hs, -⟩ | ⟨-, _, hg, -⟩ | ⟨-, -, _, -, hr, -⟩ |
      ⟨-, -, signatures, V, c, hf, hx, hc, hr, rfl⟩
  · simp [hs] at hskip
  · simp [hg] at hmiss
  · cases hr
  · cases hr
    have hget := getElement_putSignature_new hc hmiss
    refine ⟨V, rfl, fun env' => ⟨_, attest_hit (by rwa [shouldSkipImage_withCache]) hget⟩, ?_⟩
    have h2 : AttestContainerSignatures lib env sigstore ⟨imageID, c2⟩ =
        some (.ok (selectorsString V c2), { sigstore with sigstorecache := c }) :=
      attest_miss hskip hmiss hf ((extract_containerID lib sigstore signatures c2 c1).trans hx) hc
    rw [h2]
    rfl

/-- A library whose reference parser reads every name as a digest reference, whose digest is
the hash of every manifest. -/
def digestLib : Lib where
  ParseReference s := .ok (.digest s "sha256:0")
  SHA256 _ := .ok "sha256:0"
  urlParse _ := .error "unparsed"
  decodeString _ := none
  rekor := rekorGenerated

/-- A signature whose payload names `spirex@example.com`, whose bundle cannot be read. -/
def loggedSignature : Signature := { unbundledSignature with Bundle := .error "no bundle" }

/-- A registry serving a manifest, and a verifier verifying that signature. -/
def verifiedEnv : Env where
  fetchImageManifest _ := .ok ⟨some []⟩
  verify _ _ := ⟨[some loggedSignature], true, none⟩

theorem cache_hit_matches_miss_signed :
    ∃ V, ["c1:image-signature-subject:spirex@example.com", signatureVerifiedSelector] =
        selectorsString V "c1" ∧
      (∀ env', ∃ sigstore₂, AttestContainerSignatures digestLib env'
          { New digestLib (NewCache 1) with
            sigstorecache := ⟨1, [⟨"img", [{ Subject := "spirex@example.com", Verified := true }]⟩]⟩ }
          ⟨"img", "c2"⟩ = some (.ok (selectorsString V "c2"), sigstore₂)) ∧
      (AttestContainerSignatures digestLib verifiedEnv (New digestLib (NewCache 1)) ⟨"img", "c2"⟩).map
        Prod.fst = some (.ok (selectorsString V "c2")) :=
  cache_hit_matches_miss digestLib verifiedEnv (New digestLib (NewCache 1)) _ "img" "c1" "c2" _ rfl rfl rfl

end Sigstore
