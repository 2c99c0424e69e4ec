import SigstoreAttestor.Extract

/-!
# Fetching verified signatures

`FetchImageSignatures` parses the image name, checks that it is a digest reference whose
digest is the SHA-256 of the manifest the registry serves (`ValidateImage`), builds the
Rekor client from the configured endpoint, and asks the verifier.  It fails unless the
verifier reports the signatures as verified and returns no error.

Two earlier versions of the fetch are kept in the repository.  The first
(`Earlier.FetchImageSignatures`) takes the endpoint as an argument and its
`validateRefDigest` returns `(false, nil)` for a tag — "do nothing if ref is a Tag" — and for
a digest that does not match, so the fetch goes on to the verifier in both cases.  The
second (`EarlierPayload.FetchSignaturePayload`) rejects those references, but reads
`err.Error()` of a nil error to do so; the model returns `none` for the panic.

## Main definitions

* `Env` — what the registry and the verifier answer during one call.
* `validateRefDigest`, `ValidateImage`, `FetchImageSignatures` — the fetch.
* `DefaultTransportConfig`, `rekorCheckOpts` — the Rekor client the fetch builds.
* `Earlier.FetchImageSignatures`, `EarlierPayload.FetchSignaturePayload` — the earlier fetches.
* `RekorEndpointValid`, `setRekorURLs` — the endpoint `SetRekorURL` admits, and a run of it.

## Main results

* `fetchImageSignatures_eq_ok` — the fetch succeeds exactly when the name is a digest
  reference matching the manifest's hash and the verifier returns its signatures verified,
  with no error.
* `fetchImageSignatures_verifier_unused` — when the digest check fails the fetch is an
  error whatever the verifier would answer.
* `validateImage_agree` — `ValidateImage` never returns `(false, nil)`.
* `Earlier.fetchImageSignatures_ok_verified`, `EarlierPayload.fetchSignaturePayload_ok_verified`
  — the earlier fetches return signatures only as a verified answer without error, the second
  only after its digest check passes.
* `digest_gate` — these facts together, and the tag reference the earlier fetch lets
  through (`earlier_fetch_accepts_tag`).
* `setRekorURL_cases`, `setRekorURLs_endpoint` — a failed `SetRekorURL` changes nothing, a
  successful one sets a valid endpoint, so a run of them keeps the endpoint the default or
  valid.
* `rekor_endpoint` — over every run from `New`, with the transport each fetch builds; the
  rekor client's own default endpoint is `http` (`new_rekor_endpoint_http`).
-/

namespace Sigstore

/-! ### The registry and the verifier -/

/-- A registry descriptor (`remote.Descriptor`), by its manifest bytes, nil possibly. -/
structure Descriptor where
  /-- The manifest's bytes. -/
  Manifest : Option (List UInt8)

/-- A Rekor transport configuration (`client.TransportConfig`). -/
structure TransportConfig where
  /-- The host. -/
  Host : String
  /-- The base path. -/
  BasePath : String
  /-- The schemes. -/
  Schemes : List String
  deriving Repr, DecidableEq

/-- The verification options (`cosign.CheckOpts`), by the Rekor client they carry. -/
structure CheckOpts where
  /-- The Rekor client's transport. -/
  RekorClient : TransportConfig
  deriving Repr, DecidableEq

/-- What the verifier returns: the signatures, whether they verified, and an error. -/
structure VerifyResult where
  /-- The signatures. -/
  signatures : List (Option Signature)
  /-- Whether the bundle verified. -/
  ok : Bool
  /-- The error, if any. -/
  err : Option String

/-- What the registry and the verifier answer during one call. -/
structure Env where
  /-- `remote.Get`: a descriptor, or an error. -/
  fetchImageManifest : Reference → Except String Descriptor
  /-- `cosign.VerifyImageSignatures`. -/
  verify : Reference → CheckOpts → VerifyResult

/-- `rekor.DefaultTransportConfig()`. -/
def DefaultTransportConfig (d : RekorDefaults) : TransportConfig :=
  { Host := d.DefaultHost, BasePath := d.DefaultBasePath, Schemes := d.DefaultSchemes }

/-- `TransportConfig.WithBasePath`. -/
def TransportConfig.WithBasePath (cfg : TransportConfig) (basePath : String) : TransportConfig :=
  { cfg with BasePath := basePath }

/-- `TransportConfig.WithHost`. -/
def TransportConfig.WithHost (cfg : TransportConfig) (host : String) : TransportConfig :=
  { cfg with Host := host }

/-! ### The fetch -/

/-- `validateRefDigest`: a digest reference whose digest is `digest` passes; any other
reference fails with an error. -/
def validateRefDigest (ref : Reference) (digest : String) : Bool × Option String :=
  match ref with
  | .digest _ dgst =>
    if dgst = digest then (true, none)
    else (false, some ("Digest " ++ digest ++ " does not match " ++ dgst))
  | _ => (false, some ("Reference " ++ ref.String ++ " is not a digest"))

/-- `ValidateImage`: fetch the manifest, hash it, and compare with the reference. -/
def ValidateImage (lib : Lib) (env : Env) (ref : Reference) : Bool × Option String :=
  match env.fetchImageManifest ref with
  | .error e => (false, some e)
  | .ok desc =>
    match desc.Manifest with
    | none => (false, some "Manifest is nil")
    | some manifest =>
      match lib.SHA256 manifest with
      | .error e => (false, some e)
      | .ok hash => validateRefDigest ref hash

/-- The options `FetchImageSignatures` passes to the verifier: the default transport with
the endpoint's path and host. -/
def rekorCheckOpts (lib : Lib) (sigstore : Sigstoreimpl) : CheckOpts :=
  { RekorClient := ((DefaultTransportConfig lib.rekor).WithBasePath sigstore.rekorURL.Path).WithHost
      sigstore.rekorURL.Host }

/-- `FetchImageSignatures`. -/
def FetchImageSignatures (lib : Lib) (env : Env) (sigstore : Sigstoreimpl) (imageName : String) :
    Except String (List (Option Signature)) :=
  match lib.ParseReference imageName with
  | .error e => .error ("Error parsing image reference: " ++ e)
  | .ok ref =>
    match (ValidateImage lib env ref).2 with
    | some e => .error ("Could not validate image reference digest: " ++ e)
    | none =>
      let r := env.verify ref (rekorCheckOpts lib sigstore)
      match r.err with
      | some e => .error ("Error verifying signature: " ++ e)
      | none => if r.ok then .ok r.signatures else .error ("Bundle not verified for " ++ imageName)

/-! ### The digest gate -/

/-- The digest check passes for `ref`: it is a digest reference and its digest is the hash of
the manifest the registry serves. -/
def DigestMatches (lib : Lib) (env : Env) (ref : Reference) : Prop :=
  ∃ str dgst manifest, ref = .digest str dgst ∧ env.fetchImageManifest ref = .ok ⟨some manifest⟩ ∧
    lib.SHA256 manifest = .ok dgst

theorem validateRefDigest_eq_none {ref : Reference} {digest : String} :
    (validateRefDigest ref digest).2 = none ↔ ∃ str, ref = .digest str digest := by
  cases ref with
  | tag s => simp [validateRefDigest]
  | digest s d => by_cases h : d = digest <;> simp [validateRefDigest, h]

/-- `ValidateImage` reports no error exactly when the digest check passes. -/
theorem validateImage_eq_none {lib : Lib} {env : Env} {ref : Reference} :
    (ValidateImage lib env ref).2 = none ↔ DigestMatches lib env ref := by
  unfold DigestMatches
  rcases hf : env.fetchImageManifest ref with e | ⟨_ | manifest⟩
  · simp [ValidateImage, hf]
  · simp [ValidateImage, hf]
  · rcases hh : lib.SHA256 manifest with e | hash
    · simp [ValidateImage, hf, hh]
    · simp [ValidateImage, hf, hh, validateRefDigest_eq_none]

/-- `ValidateImage`'s verdict and error agree: it never returns `(false, nil)`. -/
theorem validateImage_agree (lib : Lib) (env : Env) (ref : Reference) :
    (ValidateImage lib env ref).1 = true ↔ (ValidateImage lib env ref).2 = none := by
  unfold ValidateImage
  split
  · simp
  · split
    · simp
    · split
      · simp
      · unfold validateRefDigest; split
        · split <;> simp
        · simp

/-- The fetch succeeds exactly when the name parses to a digest reference matching the
manifest's hash, and the verifier, given the configured Rekor client, returns the
signatures verified and no error. -/
theorem fetchImageSignatures_eq_ok {lib : Lib} {env : Env} {sigstore : Sigstoreimpl}
    {imageName : String} {sigs : List (Option Signature)} :
    FetchImageSignatures lib env sigstore imageName = .ok sigs ↔
      ∃ ref, lib.ParseReference imageName = .ok ref ∧ DigestMatches lib env ref ∧
        env.verify ref (rekorCheckOpts lib sigstore) = ⟨sigs, true, none⟩ := by
  unfold FetchImageSignatures
  rcases lib.ParseReference imageName with e | ref
  · simp
  · simp only [Except.ok.injEq, exists_eq_left']
    rcases hv : (ValidateImage lib env ref).2 with _ | e
    · simp only [validateImage_eq_none.1 hv, true_and]
      rcases env.verify ref (rekorCheckOpts lib sigstore) with ⟨sigs', ok, err⟩
      cases err <;> cases ok <;> simp [eq_comm]
    · have hd : ¬DigestMatches lib env ref := fun h => by simp [validateImage_eq_none.2 h] at hv
      simp [hd]

/-- When the digest check fails, the fetch fails, whatever the verifier would answer. -/
theorem fetchImageSignatures_verifier_unused {lib : Lib} {env : Env} {sigstore : Sigstoreimpl}
    {imageName : String} {ref : Reference} (href : lib.ParseReference imageName = .ok ref)
    (hd : ¬DigestMatches lib env ref) (verify : Reference → CheckOpts → VerifyResult) :
    ∃ e, FetchImageSignatures lib env sigstore imageName = .error e ∧
      FetchImageSignatures lib { env with verify } sigstore imageName = .error e := by
  obtain ⟨e, he⟩ := Option.ne_none_iff_exists'.1 (mt validateImage_eq_none.1 hd)
  have he' : (ValidateImage lib { env with verify } ref).2 = some e := he
  exact ⟨"Could not validate image reference digest: " ++ e,
    by simp only [FetchImageSignatures, href, he], by simp only [FetchImageSignatures, href, he']⟩

/-! ### The earlier fetches -/

namespace Earlier

/-- The earlier `validateRefDigest`: a matching digest reference passes, and anything else is
`(false, nil)` — "do nothing if ref is a Tag". -/
def validateRefDigest (ref : Reference) (digest : String) : Bool × Option String :=
  match ref with
  | .digest _ dgst => if dgst = digest then (true, none) else (false, none)
  | _ => (false, none)

/-- The earlier `ValidateImage`, which hashes a nil manifest as no bytes. -/
def ValidateImage (lib : Lib) (env : Env) (ref : Reference) : Bool × Option String :=
  match env.fetchImageManifest ref with
  | .error e => (false, some e)
  | .ok desc =>
    match lib.SHA256 (desc.Manifest.getD []) with
    | .error e => (false, some e)
    | .ok hash => validateRefDigest ref hash

/-- The Rekor transport the earlier fetch builds from its endpoint argument: the default one
for an empty endpoint, else the endpoint's host and path once it passes the same checks as
`SetRekorURL`. -/
def rekorTransport (lib : Lib) (rekorURL : String) : Except String TransportConfig :=
  if rekorURL ≠ "" then
    match lib.urlParse rekorURL with
    | .error e => .error ("Error parsing rekor URI: " ++ e)
    | .ok rekorURI =>
      if rekorURI.Scheme ≠ "" ∧ rekorURI.Scheme ≠ "https" then
        .error ("Invalid rekor URL Scheme: " ++ rekorURI.Scheme)
      else if rekorURI.Host = "" then .error ("Invalid rekor URL Host: " ++ rekorURI.Host)
      else .ok (((DefaultTransportConfig lib.rekor).WithBasePath rekorURI.Path).WithHost rekorURI.Host)
  else .ok (DefaultTransportConfig lib.rekor)

/-- The earlier `FetchImageSignatures`, with `ValidateImage` as the reference validator `New`
installs. -/
def FetchImageSignatures (lib : Lib) (env : Env) (imageName rekorURL : String) :
    Except String (List (Option Signature)) :=
  match lib.ParseReference imageName with
  | .error e => .error ("Error parsing image reference: " ++ e)
  | .ok ref =>
    match (ValidateImage lib env ref).2 with
    | some e => .error ("Could not validate image reference digest: " ++ e)
    | none =>
      match rekorTransport lib rekorURL with
      | .error e => .error e
      | .ok client =>
        let r := env.verify ref { RekorClient := client }
        match r.err with
        | some e => .error ("Error verifying signature: " ++ e)
        | none => if r.ok then .ok r.signatures else .error ("Bundle not verified for " ++ imageName)

/-- A tag reference passes the earlier validation without any digest comparison. -/
theorem validateImage_tag {lib : Lib} {env : Env} {str : String} {desc : Descriptor} {hash : String}
    (hm : env.fetchImageManifest (.tag str) = .ok desc) (hh : lib.SHA256 (desc.Manifest.getD []) = .ok hash) :
    ValidateImage lib env (.tag str) = (false, none) := by
  simp [ValidateImage, hm, hh, validateRefDigest]

/-- So the earlier fetch returns whatever the verifier verifies for a tag reference. -/
theorem fetchImageSignatures_tag {lib : Lib} {env : Env} {imageName str : String} {desc : Descriptor}
    {hash : String} (hp : lib.ParseReference imageName = .ok (.tag str))
    (hm : env.fetchImageManifest (.tag str) = .ok desc) (hh : lib.SHA256 (desc.Manifest.getD []) = .ok hash)
    {sigs : List (Option Signature)}
    (hv : env.verify (.tag str) { RekorClient := DefaultTransportConfig lib.rekor } = ⟨sigs, true, none⟩) :
    FetchImageSignatures lib env imageName "" = .ok sigs := by
  simp [FetchImageSignatures, hp, validateImage_tag hm hh, rekorTransport, hv]

/-- The earlier digest check passes for `ref`: it is a digest reference and its digest is the
hash of the manifest the registry serves, a nil manifest hashed as no bytes. -/
def DigestMatches (lib : Lib) (env : Env) (ref : Reference) : Prop :=
  ∃ str dgst desc, ref = .digest str dgst ∧ env.fetchImageManifest ref = .ok desc ∧
    lib.SHA256 (desc.Manifest.getD []) = .ok dgst

/-- The earlier `ValidateImage` returns `(true, nil)` exactly when its digest check passes. -/
theorem validateImage_eq_true {lib : Lib} {env : Env} {ref : Reference} :
    ValidateImage lib env ref = (true, none) ↔ DigestMatches lib env ref := by
  unfold DigestMatches
  rcases hf : env.fetchImageManifest ref with e | desc
  · simp [ValidateImage, hf]
  · rcases hh : lib.SHA256 (desc.Manifest.getD []) with e | hash
    · simp [ValidateImage, hf, hh]
    · cases ref with
      | tag s => simp [ValidateImage, hf, hh, validateRefDigest]
      | digest s d =>
        obtain rfl | h := eq_or_ne d hash
        · simp [ValidateImage, hf, hh, validateRefDigest]
        · simp [ValidateImage, hf, hh, validateRefDigest, h, Ne.symm h]

/-- The earlier fetch returns signatures only as the verifier's answer `(sigs, true, nil)` for the
parsed reference. -/
theorem fetchImageSignatures_ok_verified {lib : Lib} {env : Env} {imageName rekorURL : String}
    {sigs : List (Option Signature)} (h : FetchImageSignatures lib env imageName rekorURL = .ok sigs) :
    ∃ ref client, lib.ParseReference imageName = .ok ref ∧ rekorTransport lib rekorURL = .ok client ∧
      env.verify ref { RekorClient := client } = ⟨sigs, true, none⟩ := by
  unfold FetchImageSignatures at h
  split at h
  · cases h
  next ref href =>
    split at h
    · cases h
    split at h
    · cases h
    next client hc =>
      refine ⟨ref, client, href, hc, ?_⟩
      revert h
      rcases env.verify ref { RekorClient := client } with ⟨sigs', _ | _, _ | err⟩ <;> simp [eq_comm]

end Earlier

namespace EarlierPayload

/-- The second earlier `validateImage`, the same as the first. -/
def validateImage (lib : Lib) (env : Env) (ref : Reference) : Bool × Option String :=
  Earlier.ValidateImage lib env ref

/-- `FetchSignaturePayload`: `none` where it reads `err.Error()` of a nil error, after a
failed validation without an error and after an unverified bundle without one. -/
def FetchSignaturePayload (lib : Lib) (env : Env) (imageName rekorURL : String) :
    Option (Except String (List (Option Signature))) :=
  match lib.ParseReference imageName with
  | .error e => some (.error ("Error parsing image reference: " ++ e))
  | .ok ref =>
    let (ok, err) := validateImage lib env ref
    if !ok ∨ err.isSome then
      err.map fun e => .error ("Could not validate image reference digest: " ++ e)
    else
      match lib.urlParse rekorURL with
      | .error e => some (.error ("Error parsing rekor URI: " ++ e))
      | .ok rekorURI =>
        if rekorURI.Scheme ≠ "" ∧ rekorURI.Scheme ≠ "http" ∧ rekorURI.Scheme ≠ "https" then
          some (.error ("Invalid rekor URL Scheme: " ++ rekorURI.Scheme))
        else
          let r := env.verify ref
            { RekorClient := { Schemes := [rekorURI.Scheme], Host := rekorURI.Host, BasePath := rekorURI.Path } }
          match r.err with
          | some e => some (.error ("Error verifying signature: " ++ e))
          | none => if r.ok then some (.ok r.signatures) else none

/-- `FetchSignaturePayload` returns signatures only after its digest check passes and the
verifier, given the endpoint's client, answers `(sigs, true, nil)`. -/
theorem fetchSignaturePayload_ok_verified {lib : Lib} {env : Env} {imageName rekorURL : String}
    {sigs : List (Option Signature)} (h : FetchSignaturePayload lib env imageName rekorURL = some (.ok sigs)) :
    ∃ ref rekorURI, lib.ParseReference imageName = .ok ref ∧ Earlier.DigestMatches lib env ref ∧
      lib.urlParse rekorURL = .ok rekorURI ∧ env.verify ref { RekorClient :=
        { Schemes := [rekorURI.Scheme], Host := rekorURI.Host, BasePath := rekorURI.Path } } =
        ⟨sigs, true, none⟩ := by
  unfold FetchSignaturePayload at h
  split at h
  · cases h
  next ref href =>
    rcases hv : validateImage lib env ref with ⟨ok, err⟩
    rw [hv] at h
    dsimp only at h
    by_cases hbad : (!ok) = true ∨ err.isSome = true
    · rw [if_pos hbad] at h
      cases err <;> cases h
    obtain ⟨rfl, rfl⟩ : ok = true ∧ err = none := by
      simpa only [not_or, Bool.not_eq_true', Bool.not_eq_false, Option.not_isSome_iff_eq_none] using hbad
    rw [if_neg hbad] at h
    split at h
    · cases h
    next rekorURI hurl =>
      by_cases hs : rekorURI.Scheme ≠ "" ∧ rekorURI.Scheme ≠ "http" ∧ rekorURI.Scheme ≠ "https"
      · rw [if_pos hs] at h
        cases h
      rw [if_neg hs] at h
      refine ⟨ref, rekorURI, href, Earlier.validateImage_eq_true.1 hv, hurl, ?_⟩
      revert h
      rcases env.verify ref { RekorClient :=
        { Schemes := [rekorURI.Scheme], Host := rekorURI.Host, BasePath := rekorURI.Path } } with
        ⟨sigs', _ | _, _ | err⟩ <;> simp [eq_comm]

/-- When the digest check fails, `FetchSignaturePayload` does not reach the verifier: it
returns or panics the same whatever the verifier would answer. -/
theorem fetchSignaturePayload_verifier_unused {lib : Lib} {env : Env} {imageName rekorURL : String}
    {ref : Reference} (href : lib.ParseReference imageName = .ok ref)
    (hd : ¬Earlier.DigestMatches lib env ref) (verify : Reference → CheckOpts → VerifyResult) :
    FetchSignaturePayload lib { env with verify } imageName rekorURL =
      FetchSignaturePayload lib env imageName rekorURL := by
  have hv : validateImage lib { env with verify } ref = validateImage lib env ref := rfl
  have hne : validateImage lib env ref ≠ (true, none) := mt Earlier.validateImage_eq_true.1 hd
  simp only [FetchSignaturePayload, href, hv]
  generalize validateImage lib env ref = v at hne ⊢
  obtain ⟨ok, err⟩ := v
  have hbad : (!ok) = true ∨ err.isSome = true := by
    cases ok <;> cases err <;> simp_all
  simp only [if_pos hbad]

end EarlierPayload

/-! ### The gate, and the tag the earlier fetch lets through -/

/-- **The digest gate.**  For every library, registry answer, verifier answer and image name:
the fetch succeeds only through a digest reference matching the manifest's hash and a
verified answer without error; when the digest check fails it is an error whatever the
verifier would say; `ValidateImage` never returns `(false, nil)`.  The earlier
`FetchImageSignatures` too returns signatures only as a verified answer without error;
`FetchSignaturePayload` returns them only after a matching digest and such an answer, and
does not reach the verifier when the digest check fails.  The earlier `FetchImageSignatures`,
by design, hands a tag reference to the verifier without comparing any digest. -/
theorem digest_gate (lib : Lib) (env : Env) (sigstore : Sigstoreimpl) (imageName : String) :
    (∀ sigs, FetchImageSignatures lib env sigstore imageName = .ok sigs →
      ∃ ref, lib.ParseReference imageName = .ok ref ∧ DigestMatches lib env ref ∧
        env.verify ref (rekorCheckOpts lib sigstore) = ⟨sigs, true, none⟩) ∧
    (∀ ref, lib.ParseReference imageName = .ok ref → ¬DigestMatches lib env ref →
      ∀ verify, ∃ e, FetchImageSignatures lib env sigstore imageName = .error e ∧
        FetchImageSignatures lib { env with verify } sigstore imageName = .error e) ∧
    (∀ ref, (ValidateImage lib env ref).1 = true ↔ (ValidateImage lib env ref).2 = none) ∧
    (∀ rekorURL sigs, Earlier.FetchImageSignatures lib env imageName rekorURL = .ok sigs →
      ∃ ref opts, lib.ParseReference imageName = .ok ref ∧ env.verify ref opts = ⟨sigs, true, none⟩) ∧
    (∀ rekorURL sigs, EarlierPayload.FetchSignaturePayload lib env imageName rekorURL = some (.ok sigs) →
      ∃ ref opts, lib.ParseReference imageName = .ok ref ∧ Earlier.DigestMatches lib env ref ∧
        env.verify ref opts = ⟨sigs, true, none⟩) ∧
    (∀ ref, lib.ParseReference imageName = .ok ref → ¬Earlier.DigestMatches lib env ref →
      ∀ rekorURL verify, EarlierPayload.FetchSignaturePayload lib { env with verify } imageName rekorURL =
        EarlierPayload.FetchSignaturePayload lib env imageName rekorURL) ∧
    (∀ str desc hash sigs, lib.ParseReference imageName = .ok (.tag str) →
      env.fetchImageManifest (.tag str) = .ok desc → lib.SHA256 (desc.Manifest.getD []) = .ok hash →
      env.verify (.tag str) { RekorClient := DefaultTransportConfig lib.rekor } = ⟨sigs, true, none⟩ →
      Earlier.FetchImageSignatures lib env imageName "" = .ok sigs) := by
  refine ⟨fun _ h => fetchImageSignatures_eq_ok.1 h,
    fun _ href hd verify => fetchImageSignatures_verifier_unused href hd verify,
    validateImage_agree lib env, fun _ _ h => ?_, fun _ _ h => ?_,
    fun _ href hd _ verify => EarlierPayload.fetchSignaturePayload_verifier_unused href hd verify,
    fun _ _ _ _ hp hm hh hv => Earlier.fetchImageSignatures_tag hp hm hh hv⟩
  · obtain ⟨ref, _, href, -, hv⟩ := Earlier.fetchImageSignatures_ok_verified h
    exact ⟨ref, _, href, hv⟩
  · obtain ⟨ref, _, href, hd, -, hv⟩ := EarlierPayload.fetchSignaturePayload_ok_verified h
    exact ⟨ref, _, href, hd, hv⟩

/-- The rekor client's generated defaults: host `rekor.sigstore.dev`, base path `/`, and the
one scheme its API description lists, `http`. -/
def rekorGenerated : RekorDefaults := ⟨"rekor.sigstore.dev", "/", ["http"], by simp⟩

/-- A library whose reference parser reads every name as a tag, with rekor's defaults. -/
def tagLib : Lib where
  ParseReference s := .ok (.tag s)
  SHA256 _ := .ok "sha256:0"
  urlParse _ := .error "unparsed"
  decodeString _ := none
  rekor := rekorGenerated

/-- A registry that serves a manifest and a verifier that verifies one signature. -/
def signedEnv : Env where
  fetchImageManifest _ := .ok ⟨some []⟩
  verify _ _ := ⟨[some unbundledSignature], true, none⟩

/-- The earlier fetch returns a verified signature for a tag reference, which no digest
check matched, and the other earlier fetch panics on it. -/
theorem earlier_fetch_accepts_tag :
    Earlier.FetchImageSignatures tagLib signedEnv "registry/img:latest" "" = .ok [some unbundledSignature] ∧
      EarlierPayload.FetchSignaturePayload tagLib signedEnv "registry/img:latest" "" = none ∧
      ∀ ref, tagLib.ParseReference "registry/img:latest" = .ok ref → ¬DigestMatches tagLib signedEnv ref := by
  refine ⟨rfl, rfl, ?_⟩
  rintro ref h ⟨str, dgst, m, rfl, -, -⟩
  cases h

/-! ### The endpoint -/

/-- The endpoint `SetRekorURL` admits: no scheme or `https`, and a host. -/
def RekorEndpointValid (u : URL) : Prop := (u.Scheme = "" ∨ u.Scheme = "https") ∧ u.Host ≠ ""

instance : DecidablePred RekorEndpointValid := fun _ => inferInstanceAs (Decidable (_ ∧ _))

/-- `SetRekorURL` either fails and changes nothing, or sets the parsed, valid endpoint and
nothing else. -/
theorem setRekorURL_cases (lib : Lib) (sigstore : Sigstoreimpl) (rekorURL : String) :
    (∃ e, SetRekorURL lib sigstore rekorURL = (some e, sigstore)) ∨
      ∃ u, RekorEndpointValid u ∧ lib.urlParse rekorURL = .ok u ∧
        SetRekorURL lib sigstore rekorURL = (none, { sigstore with rekorURL := u }) := by
  unfold SetRekorURL
  split_ifs
  · exact .inl ⟨_, rfl⟩
  split
  · exact .inl ⟨_, rfl⟩
  next u hu =>
    split_ifs with hs hh
    · exact .inl ⟨_, rfl⟩
    · exact .inl ⟨_, rfl⟩
    · exact .inr ⟨u, ⟨by simpa only [ne_eq, not_and_or, not_not] using hs, hh⟩, hu, rfl⟩

/-- A sequence of `SetRekorURL` calls, by the engine after the last. -/
def setRekorURLs (lib : Lib) : Sigstoreimpl → List String → Sigstoreimpl
  | sigstore, [] => sigstore
  | sigstore, url :: urls => setRekorURLs lib (SetRekorURL lib sigstore url).2 urls

/-- A run of setters keeps the endpoint either at its start `u₀` or valid. -/
theorem setRekorURLs_endpoint (lib : Lib) (u₀ : URL) :
    ∀ (sigstore : Sigstoreimpl) (urls : List String),
      sigstore.rekorURL = u₀ ∨ RekorEndpointValid sigstore.rekorURL →
      (setRekorURLs lib sigstore urls).rekorURL = u₀ ∨
        RekorEndpointValid (setRekorURLs lib sigstore urls).rekorURL
  | _, [], h => h
  | sigstore, url :: urls, h => by
    refine setRekorURLs_endpoint lib u₀ _ urls ?_
    rcases setRekorURL_cases lib sigstore url with ⟨e, he⟩ | ⟨u, hu, -, he⟩ <;> rw [he]
    exacts [h, .inr hu]

theorem setRekorURLs_append (lib : Lib) (sigstore : Sigstoreimpl) (urls urls' : List String) :
    setRekorURLs lib sigstore (urls ++ urls') =
      setRekorURLs lib (setRekorURLs lib sigstore urls) urls' := by
  induction urls generalizing sigstore with
  | nil => rfl
  | cons url urls ih => exact ih _

/-- `SetRekorURL` reads nothing of the engine but its endpoint. -/
theorem setRekorURLs_rekorURL_congr (lib : Lib) {sigstore sigstore' : Sigstoreimpl}
    (h : sigstore.rekorURL = sigstore'.rekorURL) (urls : List String) :
    (setRekorURLs lib sigstore urls).rekorURL = (setRekorURLs lib sigstore' urls).rekorURL := by
  induction urls generalizing sigstore sigstore' with
  | nil => exact h
  | cons url urls ih =>
    refine ih ?_
    unfold SetRekorURL
    split_ifs
    · exact h
    split
    · exact h
    split_ifs <;> first | exact h | rfl

/-- The fetch asks the verifier only with `rekorCheckOpts`. -/
theorem fetchImageSignatures_congr_verify {lib : Lib} {env : Env} {sigstore : Sigstoreimpl}
    {verify : Reference → CheckOpts → VerifyResult}
    (h : ∀ ref, verify ref (rekorCheckOpts lib sigstore) = env.verify ref (rekorCheckOpts lib sigstore))
    (imageName : String) :
    FetchImageSignatures lib { env with verify } sigstore imageName =
      FetchImageSignatures lib env sigstore imageName := by
  simp only [FetchImageSignatures, h]; rfl

/-- **The endpoint.**  Over every sequence of `SetRekorURL` calls from `New`, the endpoint is
the rekor client's default or one the validation admits; a failed call changes nothing; and
every fetch asks the verifier with a transport whose host and base path are the endpoint's. -/
theorem rekor_endpoint (lib : Lib) (cache : Cacheimpl (List SelectorsFromSignatures))
    (urls : List String) :
    let sigstore := setRekorURLs lib (New lib cache) urls
    (sigstore.rekorURL = (New lib cache).rekorURL ∨ RekorEndpointValid sigstore.rekorURL) ∧
    (∀ s url, (SetRekorURL lib s url).1.isSome → (SetRekorURL lib s url).2 = s) ∧
    (∀ env verify, (∀ ref, verify ref (rekorCheckOpts lib sigstore) =
        env.verify ref (rekorCheckOpts lib sigstore)) →
      ∀ imageName, FetchImageSignatures lib { env with verify } sigstore imageName =
        FetchImageSignatures lib env sigstore imageName) ∧
    (rekorCheckOpts lib sigstore).RekorClient.Host = sigstore.rekorURL.Host ∧
    (rekorCheckOpts lib sigstore).RekorClient.BasePath = sigstore.rekorURL.Path := by
  refine ⟨setRekorURLs_endpoint lib _ _ urls (.inl rfl), fun s url h => ?_,
    fun _ _ h => fetchImageSignatures_congr_verify h, rfl, rfl⟩
  rcases setRekorURL_cases lib s url with ⟨e, he⟩ | ⟨u, -, -, he⟩
  · rw [he]
  · rw [he] at h; cases h

/-- With the rekor client's generated defaults, `New` starts from the `http` scheme, which
`SetRekorURL` refuses. -/
theorem new_rekor_endpoint_http :
    (New tagLib (NewCache 1)).rekorURL.Scheme = "http" ∧
      ¬RekorEndpointValid (New tagLib (NewCache 1)).rekorURL := by
  decide

end Sigstore
