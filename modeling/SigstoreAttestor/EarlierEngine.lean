import SigstoreAttestor.Attest

/-!
# The first earlier engine's skip list and selectors

Beside the fetch of the `Fetch` module (`Earlier.FetchImageSignatures`), the first earlier
engine of `config_reconcile_test.go` keeps a skip list that maps an image ID to the selectors
to return for it, and derives one selector per signature.

Its `New` leaves the map nil, and its `AddSkippedImage` assigns into the map without making
it first.  `ClearSkipList` deletes the keys and keeps the map, nil or not, and nothing else
makes the map: on an engine from `New`, every `AddSkippedImage` panics.

Its `getSignatureSubject` has the text of the engine's, every error returned as the empty
subject, and its extraction returns the selector `image-signature-subject:<subject>` of each
signature with a non-empty subject.  With the allow list off, these are exactly the subject
selectors of what the engine extracts, whenever the engine's extraction returns.

## Main definitions

* `Earlier.Sigstoreimpl`, `Earlier.New`, `Earlier.SkipImage`, `Earlier.AddSkippedImage`,
  `Earlier.ClearSkipList` — the skip list.
* `Earlier.getSignatureSubject`, `Earlier.SelectorValuesFromSignature`,
  `Earlier.ExtractSelectorsFromSignatures` — the selectors.

## Main results

* `Earlier.runSkip_new` — from `New`, a sequence of skip-list calls panics exactly when it
  adds an image.
* `Earlier.skipImage_addSkippedImage` — on a made map, an added image is skipped with its
  selectors.
* `earlier_extract_eq_subjects` — with the allow list off, the earlier selectors are the
  subject selectors of the engine's extraction.
-/

namespace Sigstore

namespace Earlier

/-! ### The skip list -/

/-- The first earlier `Sigstoreimpl`, by its skip list: `none` for the nil map, else its
entries.  The verifier and the reference validator are those of `Earlier.FetchImageSignatures`. -/
structure Sigstoreimpl where
  /-- The selectors returned for each skipped image. -/
  skippedImages : Option (List (String × List String))

/-- `New`: the skip list nil. -/
def New : Earlier.Sigstoreimpl := ⟨none⟩

/-- `SkipImage`: the selectors stored for the image, nil when there are none; the error is
always nil. -/
def SkipImage (sigstore : Earlier.Sigstoreimpl) (status : ContainerStatus) : List String × Option String :=
  match sigstore.skippedImages with
  | some m =>
    match m.lookup status.ImageID with
    | some selectors => (selectors, none)
    | none => ([], none)
  | none => ([], none)

/-- `AddSkippedImage`: `skippedImages[imageHash] = selectors`, which panics (`none`) on the
nil map. -/
def AddSkippedImage (sigstore : Earlier.Sigstoreimpl) (imageHash : String) (selectors : List String) :
    Option Earlier.Sigstoreimpl :=
  sigstore.skippedImages.map fun m => ⟨some (assignEntry imageHash selectors m)⟩

/-- `ClearSkipList`: every key deleted; a nil map stays nil. -/
def ClearSkipList (sigstore : Earlier.Sigstoreimpl) : Earlier.Sigstoreimpl :=
  ⟨sigstore.skippedImages.map fun _ => []⟩

/-- One call on the skip list. -/
inductive SkipOp where
  /-- `AddSkippedImage(imageHash, selectors)`. -/
  | addSkippedImage (imageHash : String) (selectors : List String)
  /-- `ClearSkipList()`. -/
  | clearSkipList

/-- Whether a call adds an image. -/
def SkipOp.isAdd : SkipOp → Bool
  | .addSkippedImage _ _ => true
  | .clearSkipList => false

/-- A sequence of skip-list calls, `none` if one panics. -/
def runSkip (sigstore : Earlier.Sigstoreimpl) : List SkipOp → Option Earlier.Sigstoreimpl
  | [] => some sigstore
  | .addSkippedImage imageHash selectors :: ops =>
    (AddSkippedImage sigstore imageHash selectors).bind (runSkip · ops)
  | .clearSkipList :: ops => runSkip (ClearSkipList sigstore) ops

/-- From `New`, a sequence of skip-list calls panics exactly when it adds an image, and
otherwise leaves the engine as `New` made it. -/
theorem runSkip_new (ops : List SkipOp) :
    runSkip New ops = if ops.any SkipOp.isAdd then none else some New := by
  induction ops with
  | nil => rfl
  | cons op ops ih =>
    cases op with
    | addSkippedImage _ _ => rfl
    | clearSkipList => simpa [runSkip, SkipOp.isAdd] using ih

/-- On a made map, an added image is skipped with its selectors. -/
theorem skipImage_addSkippedImage {sigstore sigstore' : Earlier.Sigstoreimpl} {imageHash : String}
    {selectors : List String} (h : AddSkippedImage sigstore imageHash selectors = some sigstore')
    (containerID : String) :
    SkipImage sigstore' ⟨imageHash, containerID⟩ = (selectors, none) := by
  obtain ⟨m, -, rfl⟩ := Option.map_eq_some'.1 h
  simp [SkipImage]

/-! ### The selectors -/

/-- The earlier `getSignatureSubject`: the text of the engine's, every error returned as the
empty subject. -/
def getSignatureSubject (signature : Option Signature) : String :=
  (Sigstore.getSignatureSubject signature).getD ""

/-- The earlier `SelectorValuesFromSignature`: the subject selector, nil for an empty
subject. -/
def SelectorValuesFromSignature (signature : Option Signature) : List String :=
  let subject := getSignatureSubject signature
  if subject ≠ "" then ["image-signature-subject:" ++ subject] else []

/-- The earlier `ExtractSelectorsFromSignatures`: every signature's selectors, in order. -/
def ExtractSelectorsFromSignatures : List (Option Signature) → List String
  | [] => []
  | sig :: sigs => SelectorValuesFromSignature sig ++ ExtractSelectorsFromSignatures sigs

end Earlier

/-- With the allow list off, a signature the engine keeps carries the earlier subject, and
one it drops has the empty earlier subject. -/
theorem selectorValues_earlier (lib : Lib) {sigstore : Sigstoreimpl}
    (hoff : sigstore.allowListEnabled = false) {signature : Option Signature}
    {containerID : String} {v : SelectorsFromSignatures}
    (h : SelectorValuesFromSignature lib sigstore signature containerID = some v) :
    Earlier.SelectorValuesFromSignature signature =
      if v.Verified then ["image-signature-subject:" ++ v.Subject] else [] := by
  cases hsig : Sigstore.getSignatureSubject signature with
  | none =>
    have hv : v.Verified = false := by
      cases hv : v.Verified
      · rfl
      · simp [(selectorValues_verified lib sigstore h hv).1] at hsig
    simp [Earlier.SelectorValuesFromSignature, Earlier.getSignatureSubject, hsig, hv]
  | some subject =>
    obtain ⟨sig, rfl⟩ : ∃ sig, signature = some sig := by
      cases signature
      · simp [Sigstore.getSignatureSubject] at hsig
      · exact ⟨_, rfl⟩
    by_cases hs : subject = ""
    · subst hs
      have hv : v.Verified = false := by
        cases hv : v.Verified
        · rfl
        · obtain ⟨h₁, h₂, -⟩ := selectorValues_verified lib sigstore h hv
          rw [hsig, Option.some.injEq] at h₁
          exact absurd h₁.symm h₂
      simp [Earlier.SelectorValuesFromSignature, Earlier.getSignatureSubject, hsig, hv]
    · simp [SelectorValuesFromSignature, hsig, hs, suppressed, hoff] at h
      obtain ⟨h₁, h₂⟩ := bundleSelectors_subject lib h
      simp [Earlier.SelectorValuesFromSignature, Earlier.getSignatureSubject, hsig, hs, h₁, h₂]

/-- **The earlier selectors.**  With the allow list off, whenever the engine's extraction
returns, the earlier engine's selectors are the subject selectors of what it extracts, in
order. -/
theorem earlier_extract_eq_subjects (lib : Lib) {sigstore : Sigstoreimpl}
    (hoff : sigstore.allowListEnabled = false) {containerID : String} :
    ∀ {signatures : List (Option Signature)} {V : List SelectorsFromSignatures},
      ExtractSelectorsFromSignatures lib sigstore signatures containerID = some V →
      V.map (fun v => "image-signature-subject:" ++ v.Subject) =
        Earlier.ExtractSelectorsFromSignatures signatures
  | [], _, h => by cases h; rfl
  | sig :: sigs, _, h => by
    simp only [ExtractSelectorsFromSignatures, Option.bind_eq_bind, Option.bind_eq_some, pure,
      Option.some.injEq] at h
    obtain ⟨v, hv, rest, hrest, rfl⟩ := h
    rw [Earlier.ExtractSelectorsFromSignatures, selectorValues_earlier lib hoff hv,
      ← earlier_extract_eq_subjects lib hoff hrest]
    split <;> simp

theorem earlier_extract_eq_subjects_signed :
    [({ Subject := "spirex@example.com", Verified := true } : SelectorsFromSignatures)].map
        (fun v => "image-signature-subject:" ++ v.Subject) =
      Earlier.ExtractSelectorsFromSignatures [some loggedSignature] :=
  @earlier_extract_eq_subjects digestLib (New digestLib (NewCache 1)) rfl "c1" [some loggedSignature] _ rfl

end Sigstore
