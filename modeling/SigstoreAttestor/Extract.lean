import SigstoreAttestor.Engine

/-!
# From signatures to selectors

`SelectorValuesFromSignature` derives a signature's subject, drops it when the allow list is
enforced and does not hold it, and otherwise records the subject together with what the
Rekor bundle adds: the signature content, the log ID and the integrated time.
`ExtractSelectorsFromSignatures` keeps, in order, the results that came out verified.

A failure to read a signature contributes an unverified, empty result, never an error.  One
path dereferences nil: when `Bundle()` returns a nil bundle without an error, the content
lookup reports the nil bundle and moves on, but `bundle.Payload.LogID` is then read from it.
The model returns `none` there, for the panic, and the whole batch panics with it.

## Main definitions

* `suppressed` — the allow check.
* `SelectorValuesFromSignature`, `ExtractSelectorsFromSignatures` — the extraction.

## Main results

* `selectorValues_eq_none_iff` — exactly the verified, allowed signatures whose `Bundle()`
  is nil panic.
* `extract_eq_none_iff` — extraction panics exactly when one of the signatures does.
* `extract_eq_filter` — extraction is the in-order list of the verified per-signature
  results, and distributes over concatenation (`extract_append`).
* `mem_extract` — every extracted selector has a non-empty, allowed subject derived from one
  of the signatures.
* `extract_panics_on_unbundled_signature` — a signed, allowed signature without a bundle
  makes extraction panic.
-/

namespace Sigstore

/-! ### One signature -/

/-- The allow check: a subject is suppressed when the allow list is enforced and does not
hold it. -/
def suppressed (sigstore : Sigstoreimpl) (subject : String) : Bool :=
  sigstore.allowListEnabled && !sigstore.subjectAllowList.contains subject

/-- What the bundle adds to the selectors of an allowed subject: the content when it can be
decoded, then the log ID and the integrated time when set; a `Bundle()` error adds nothing,
and a nil bundle is dereferenced (`none`). -/
def bundleSelectors (decodeString : String → Option Bytes) (selectors : SelectorsFromSignatures) :
    Except String (Option Bundle) → Option SelectorsFromSignatures
  | .error _ => some selectors
  | .ok bundle =>
    let selectors :=
      match getBundleSignatureContent decodeString bundle with
      | none => selectors
      | some sigContent => { selectors with Content := sigContent }
    match bundle with
    | none => none
    | some b =>
      some { selectors with
        LogID := if b.Payload.LogID ≠ "" then b.Payload.LogID else selectors.LogID
        IntegratedTime :=
          if b.Payload.IntegratedTime ≠ 0 then toString b.Payload.IntegratedTime
          else selectors.IntegratedTime }

/-- `SelectorValuesFromSignature`: the zero value when no subject can be derived, when it is
empty or when it is suppressed; otherwise the subject, verified, with the bundle's
selectors.  `containerID` is not read. -/
def SelectorValuesFromSignature (lib : Lib) (sigstore : Sigstoreimpl) (signature : Option Signature)
    (_containerID : String) : Option SelectorsFromSignatures :=
  match getSignatureSubject signature, signature with
  | some subject, some sig =>
    if subject = "" then some {}
    else if suppressed sigstore subject then some {}
    else bundleSelectors lib.decodeString { Subject := subject, Verified := true } sig.Bundle
  | _, _ => some {}

/-- `ExtractSelectorsFromSignatures`: the verified results, in order; a nil and an empty list
of signatures both give the empty list. -/
def ExtractSelectorsFromSignatures (lib : Lib) (sigstore : Sigstoreimpl) :
    List (Option Signature) → String → Option (List SelectorsFromSignatures)
  | [], _ => some []
  | sig :: sigs, containerID => do
    let s ← SelectorValuesFromSignature lib sigstore sig containerID
    let rest ← ExtractSelectorsFromSignatures lib sigstore sigs containerID
    pure (if s.Verified then s :: rest else rest)

variable (lib : Lib) (sigstore : Sigstoreimpl)

/-! ### What the bundle adds -/

theorem bundleSelectors_error (selectors : SelectorsFromSignatures) (e : String) :
    bundleSelectors lib.decodeString selectors (.error e) = some selectors := rfl

/-- A bundle whose body cannot be decoded still gives its log ID and integrated time. -/
theorem bundleSelectors_undecodable (selectors : SelectorsFromSignatures) (b : Bundle)
    (h : getBundleSignatureContent lib.decodeString (some b) = none) :
    bundleSelectors lib.decodeString selectors (.ok (some b)) =
      some { selectors with
        LogID := if b.Payload.LogID ≠ "" then b.Payload.LogID else selectors.LogID
        IntegratedTime :=
          if b.Payload.IntegratedTime ≠ 0 then toString b.Payload.IntegratedTime
          else selectors.IntegratedTime } := by
  simp only [bundleSelectors, h]

theorem bundleSelectors_eq_none {selectors : SelectorsFromSignatures}
    {b : Except String (Option Bundle)} :
    bundleSelectors lib.decodeString selectors b = none ↔ b = .ok none := by
  rcases b with _ | _ | _ <;> simp [bundleSelectors]

/-- The bundle keeps the subject and the verdict. -/
theorem bundleSelectors_subject {selectors s : SelectorsFromSignatures}
    {b : Except String (Option Bundle)} (h : bundleSelectors lib.decodeString selectors b = some s) :
    s.Subject = selectors.Subject ∧ s.Verified = selectors.Verified := by
  rcases b with _ | _ | b
  · cases h; exact ⟨rfl, rfl⟩
  · simp [bundleSelectors] at h
  · simp only [bundleSelectors, Option.some.injEq] at h
    subst h
    split <;> exact ⟨rfl, rfl⟩

/-! ### One signature -/

/-- A verified result: its subject is non-empty, allowed, and the signature's own. -/
theorem selectorValues_verified {signature : Option Signature} {containerID : String}
    {s : SelectorsFromSignatures}
    (h : SelectorValuesFromSignature lib sigstore signature containerID = some s) (hv : s.Verified) :
    getSignatureSubject signature = some s.Subject ∧ s.Subject ≠ "" ∧
      suppressed sigstore s.Subject = false := by
  unfold SelectorValuesFromSignature at h
  split at h
  · next subject sig hsub =>
    split at h
    · cases h; simp at hv
    · split at h
      · cases h; simp at hv
      · obtain ⟨hs, -⟩ := bundleSelectors_subject lib h
        simp only at hs
        subst hs
        exact ⟨hsub, ‹_›, by simpa using ‹¬suppressed sigstore _ = true›⟩
  · cases h; simp at hv

/-- An unverified result is the zero value. -/
theorem selectorValues_unverified {signature : Option Signature} {containerID : String}
    {s : SelectorsFromSignatures}
    (h : SelectorValuesFromSignature lib sigstore signature containerID = some s)
    (hv : s.Verified = false) : s = {} := by
  unfold SelectorValuesFromSignature at h
  split at h
  · split at h
    · cases h; rfl
    · split at h
      · cases h; rfl
      · have := (bundleSelectors_subject lib h).2
        simp [hv] at this
  · cases h; rfl

/-- Exactly the signatures with a non-empty, allowed subject and a nil bundle panic. -/
theorem selectorValues_eq_none_iff (signature : Option Signature) (containerID : String) :
    SelectorValuesFromSignature lib sigstore signature containerID = none ↔
      ∃ sig subject, signature = some sig ∧ getSignatureSubject signature = some subject ∧
        subject ≠ "" ∧ suppressed sigstore subject = false ∧ sig.Bundle = .ok none := by
  unfold SelectorValuesFromSignature
  split
  · next subject sig hsub =>
    split
    · simp_all
    · split
      · simp_all
      · rw [bundleSelectors_eq_none]; simp_all
  · next hne =>
    simp only [reduceCtorEq, false_iff, not_exists, not_and]
    rintro sig subject rfl hsub
    exact fun _ _ _ => hne subject sig hsub rfl

/-! ### A batch -/

/-- Extraction is the in-order list of the verified per-signature results. -/
theorem extract_eq_filter (sigs : List (Option Signature)) (containerID : String) :
    ExtractSelectorsFromSignatures lib sigstore sigs containerID =
      (sigs.mapM (SelectorValuesFromSignature lib sigstore · containerID)).map
        (·.filter (·.Verified)) := by
  induction sigs with
  | nil => rfl
  | cons sig sigs ih =>
    simp only [ExtractSelectorsFromSignatures, ih, List.mapM_cons]
    cases SelectorValuesFromSignature lib sigstore sig containerID <;>
      cases sigs.mapM (SelectorValuesFromSignature lib sigstore · containerID) <;>
      simp [List.filter_cons]

/-- Extraction distributes over concatenation. -/
theorem extract_append (xs ys : List (Option Signature)) (containerID : String) :
    ExtractSelectorsFromSignatures lib sigstore (xs ++ ys) containerID =
      (ExtractSelectorsFromSignatures lib sigstore xs containerID).bind fun a =>
        (ExtractSelectorsFromSignatures lib sigstore ys containerID).map (a ++ ·) := by
  simp only [extract_eq_filter, List.mapM_append]
  cases xs.mapM (SelectorValuesFromSignature lib sigstore · containerID) <;>
    cases ys.mapM (SelectorValuesFromSignature lib sigstore · containerID) <;> simp

/-- Extraction panics exactly when one of the signatures does. -/
theorem extract_eq_none_iff (sigs : List (Option Signature)) (containerID : String) :
    ExtractSelectorsFromSignatures lib sigstore sigs containerID = none ↔
      ∃ sig ∈ sigs, SelectorValuesFromSignature lib sigstore sig containerID = none := by
  induction sigs with
  | nil => simp [ExtractSelectorsFromSignatures]
  | cons sig sigs ih =>
    simp only [ExtractSelectorsFromSignatures, List.mem_cons, exists_eq_or_imp, ← ih]
    cases SelectorValuesFromSignature lib sigstore sig containerID <;>
      cases ExtractSelectorsFromSignatures lib sigstore sigs containerID <;> simp

/-- Every extracted selector is verified, with a non-empty allowed subject derived from one
of the signatures. -/
theorem mem_extract {sigs : List (Option Signature)} {containerID : String}
    {V : List SelectorsFromSignatures}
    (h : ExtractSelectorsFromSignatures lib sigstore sigs containerID = some V) :
    ∀ v ∈ V, v.Verified ∧ v.Subject ≠ "" ∧ suppressed sigstore v.Subject = false ∧
      ∃ sig ∈ sigs, getSignatureSubject sig = some v.Subject := by
  induction sigs generalizing V with
  | nil => cases h; simp
  | cons sig sigs ih =>
    simp only [ExtractSelectorsFromSignatures, Option.bind_eq_bind, Option.bind_eq_some,
      pure, Option.some.injEq] at h
    obtain ⟨s, hs, rest, hrest, rfl⟩ := h
    have hrest' := ih hrest
    intro v hv
    split at hv
    · next hver =>
      rcases List.mem_cons.1 hv with rfl | hv
      · obtain ⟨h₁, h₂, h₃⟩ := selectorValues_verified lib sigstore hs hver
        exact ⟨hver, h₂, h₃, sig, List.mem_cons_self _ _, h₁⟩
      · obtain ⟨h₁, h₂, h₃, sig', hmem, h₄⟩ := hrest' v hv
        exact ⟨h₁, h₂, h₃, sig', List.mem_cons_of_mem _ hmem, h₄⟩
    · obtain ⟨h₁, h₂, h₃, sig', hmem, h₄⟩ := hrest' v hv
      exact ⟨h₁, h₂, h₃, sig', List.mem_cons_of_mem _ hmem, h₄⟩

/-! ### The nil bundle -/

/-- A payload carrying only the subject `spirex@example.com`. -/
def subjectPayload : Json :=
  .object [("optional", .object [("subject", .string "spirex@example.com")])]

/-- A signature with that payload, no certificate, and no bundle: `Bundle()` returns
`(nil, nil)`, as it does for a signature never uploaded to the transparency log. -/
def unbundledSignature : Signature where
  Payload := .ok (some subjectPayload)
  Cert := .ok none
  Bundle := .ok none

/-- Extraction from a fresh engine panics on a signature without a bundle. -/
theorem extract_panics_on_unbundled_signature :
    ExtractSelectorsFromSignatures lib (New lib (NewCache 1)) [some unbundledSignature] "c1" = none := by
  simp only [ExtractSelectorsFromSignatures, Option.bind_eq_bind]
  rw [(selectorValues_eq_none_iff lib (New lib (NewCache 1)) (some unbundledSignature) "c1").2 ⟨unbundledSignature, "spirex@example.com", rfl,
    by decide, by decide, rfl, rfl⟩]
  rfl

end Sigstore
