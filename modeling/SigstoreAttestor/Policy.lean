import SigstoreAttestor.Extract

/-!
# The policy lists refine two sets and a switch

The engine keeps its skip list and its allow list as Go maps that start nil; a nil map holds
nothing, and the adders make the map before assigning into it.  `PolicySets` says what the
lists mean: two finite sets of strings and the allow list's switch.  `policyOf` reads an
engine as its `PolicySets`, and each policy call of the engine is the same call on the sets
(`PolicyOp.apply_refines`), so a run of calls from `New` never panics and ends in the sets
its calls describe.  On the sets, membership has a closed form over the history of calls:
a key is in a list exactly when it was added after the list was last cleared.

## Main definitions

* `PolicySets`, `PolicySets.apply`, `PolicySets.run`, `PolicySets.isAllowed` — the abstract
  lists, their calls and the allow check.
* `policyOf` — the abstraction of an engine.
* `runPolicy` — a run of policy calls on the engine.
* `AddedSinceClear` — "added after the last clear".

## Main results

* `PolicyOp.apply_refines`, `runPolicy_refines` — the engine's calls are the abstract calls,
  and none panics.
* `mem_run_iff` — list membership as history.
* `shouldSkipImage_eq`, `suppressed_eq`, `selectorValues_suppressed_iff` — the skip check and
  the allow check read the abstract sets.
* `policy_sets_refinement` — from `New`, over every sequence of calls.
-/

namespace Sigstore

/-! ### The abstract lists -/

/-- What the policy lists mean. -/
structure PolicySets where
  /-- The images attested without verification. -/
  skipList : Finset String
  /-- The allowed subjects. -/
  allowList : Finset String
  /-- Whether the allow list is enforced. -/
  allowListEnabled : Bool
  deriving DecidableEq

/-- No image skipped, no subject allowed, the allow list off. -/
def PolicySets.empty : PolicySets := ⟨∅, ∅, false⟩

/-- A policy call on the sets. -/
def PolicySets.apply (p : PolicySets) : PolicyOp → PolicySets
  | .addSkippedImage imageID => { p with skipList := insert imageID p.skipList }
  | .clearSkipList => { p with skipList := ∅ }
  | .addAllowedSubject subject => { p with allowList := insert subject p.allowList }
  | .clearAllowedSubjects => { p with allowList := ∅ }
  | .enableAllowSubjectList flag => { p with allowListEnabled := flag }

/-- A sequence of policy calls on the sets. -/
def PolicySets.run (p : PolicySets) (ops : List PolicyOp) : PolicySets :=
  ops.foldl PolicySets.apply p

@[simp] theorem PolicySets.run_nil (p : PolicySets) : p.run [] = p := rfl

@[simp] theorem PolicySets.run_cons (p : PolicySets) (op : PolicyOp) (ops : List PolicyOp) :
    p.run (op :: ops) = (p.apply op).run ops := rfl

theorem PolicySets.run_append (p : PolicySets) (ops ops' : List PolicyOp) :
    p.run (ops ++ ops') = (p.run ops).run ops' := List.foldl_append _ _ _ _

/-- The allow check on the sets: every subject when the list is off, its members otherwise. -/
def PolicySets.isAllowed (p : PolicySets) (subject : String) : Bool :=
  !p.allowListEnabled || decide (subject ∈ p.allowList)

theorem PolicySets.mem_skipList_apply {p : PolicySets} {op : PolicyOp} {k : String} :
    k ∈ (p.apply op).skipList ↔ op = .addSkippedImage k ∨ (op ≠ .clearSkipList ∧ k ∈ p.skipList) := by
  cases op <;> simp [PolicySets.apply, @eq_comm _ k]

theorem PolicySets.mem_allowList_apply {p : PolicySets} {op : PolicyOp} {k : String} :
    k ∈ (p.apply op).allowList ↔
      op = .addAllowedSubject k ∨ (op ≠ .clearAllowedSubjects ∧ k ∈ p.allowList) := by
  cases op <;> simp [PolicySets.apply, @eq_comm _ k]

/-! ### History -/

/-- `k` was added by `add` after the last `clear` of `ops`. -/
def AddedSinceClear (add : String → PolicyOp) (clear : PolicyOp) (k : String)
    (ops : List PolicyOp) : Prop :=
  ∃ l₁ l₂, ops = l₁ ++ add k :: l₂ ∧ clear ∉ l₂

section History

variable {add : String → PolicyOp} {clear : PolicyOp}

theorem addedSinceClear_nil {k : String} : ¬AddedSinceClear add clear k [] := by
  rintro ⟨l₁, l₂, h, -⟩
  simp at h

theorem addedSinceClear_cons {k : String} {op : PolicyOp} {ops : List PolicyOp} :
    AddedSinceClear add clear k (op :: ops) ↔
      (op = add k ∧ clear ∉ ops) ∨ AddedSinceClear add clear k ops := by
  constructor
  · rintro ⟨_ | ⟨x, l₁⟩, l₂, h, hc⟩ <;> simp only [List.nil_append, List.cons_append,
      List.cons.injEq] at h
    · exact .inl ⟨h.1, h.2 ▸ hc⟩
    · exact .inr ⟨l₁, l₂, h.2, hc⟩
  · rintro (⟨rfl, hc⟩ | ⟨l₁, l₂, rfl, hc⟩)
    exacts [⟨[], ops, rfl, hc⟩, ⟨op :: l₁, l₂, rfl, hc⟩]

/-- If a call puts `k` in the list `get` reads exactly when it is `add k`, or when it is not
`clear` and `k` was there, then after a run `k` is in the list exactly when it was there
before and never cleared, or added since the last clear. -/
theorem mem_run_iff (get : PolicySets → Finset String) (k : String)
    (hstep : ∀ p op, k ∈ get (p.apply op) ↔ op = add k ∨ (op ≠ clear ∧ k ∈ get p))
    (ops : List PolicyOp) (p : PolicySets) :
    k ∈ get (p.run ops) ↔ (k ∈ get p ∧ clear ∉ ops) ∨ AddedSinceClear add clear k ops := by
  induction ops generalizing p with
  | nil => simp [addedSinceClear_nil]
  | cons op ops ih =>
    rw [PolicySets.run_cons, ih, hstep, addedSinceClear_cons, List.mem_cons, @eq_comm _ clear,
      not_or, or_and_right, or_assoc, or_left_comm, and_assoc, and_left_comm]

end History

/-! ### The abstraction -/

/-- An engine's policy: the keys of its two maps, and its switch. -/
def policyOf (sigstore : Sigstoreimpl) : PolicySets :=
  ⟨sigstore.skippedImages.toFinset, sigstore.subjectAllowList.toFinset, sigstore.allowListEnabled⟩

theorem policyOf_new (lib : Lib) (cache : Cacheimpl (List SelectorsFromSignatures)) :
    policyOf (New lib cache) = .empty := rfl

/-- Every policy call of the engine succeeds and is the abstract call. -/
theorem PolicyOp.apply_refines (sigstore : Sigstoreimpl) (op : PolicyOp) :
    ∃ sigstore', op.apply sigstore = some sigstore' ∧
      policyOf sigstore' = (policyOf sigstore).apply op := by
  cases op with
  | addSkippedImage imageID =>
    obtain ⟨m, hm, hk⟩ := sigstore.skippedImages.add_eq imageID
    exact ⟨{ sigstore with skippedImages := m }, by simp [PolicyOp.apply, AddSkippedImage, hm],
      by simp [policyOf, PolicySets.apply, hk]⟩
  | addAllowedSubject subject =>
    obtain ⟨m, hm, hk⟩ := sigstore.subjectAllowList.add_eq subject
    exact ⟨{ sigstore with subjectAllowList := m }, by simp [PolicyOp.apply, AddAllowedSubject, hm],
      by simp [policyOf, PolicySets.apply, hk]⟩
  | _ => exact ⟨_, rfl, rfl⟩

/-- A run of policy calls on the engine, `none` if one panics. -/
def runPolicy : Sigstoreimpl → List PolicyOp → Option Sigstoreimpl
  | sigstore, [] => some sigstore
  | sigstore, op :: ops => (op.apply sigstore).bind (runPolicy · ops)

/-- A run of policy calls never panics, and is the abstract run. -/
theorem runPolicy_refines (ops : List PolicyOp) (sigstore : Sigstoreimpl) :
    ∃ sigstore', runPolicy sigstore ops = some sigstore' ∧
      policyOf sigstore' = (policyOf sigstore).run ops := by
  induction ops generalizing sigstore with
  | nil => exact ⟨sigstore, rfl, rfl⟩
  | cons op ops ih =>
    obtain ⟨s₁, h₁, hp₁⟩ := PolicyOp.apply_refines sigstore op
    obtain ⟨s₂, h₂, hp₂⟩ := ih s₁
    exact ⟨s₂, by simp [runPolicy, h₁, h₂], by rw [hp₂, hp₁, PolicySets.run_cons]⟩

/-! ### The checks read the abstract sets -/

/-- For a non-empty image ID, `ShouldSkipImage` is membership in the abstract skip list, and
never an error. -/
theorem shouldSkipImage_eq (sigstore : Sigstoreimpl) {imageID : String} (h : imageID ≠ "") :
    ShouldSkipImage sigstore imageID = (decide (imageID ∈ (policyOf sigstore).skipList), none) := by
  cases hs : sigstore.skippedImages <;>
    simp [ShouldSkipImage, policyOf, hs, h, GoSet.toFinset, GoSet.contains]

/-- An image `ShouldSkipImage` skips is on the abstract skip list. -/
theorem mem_skipList_of_shouldSkipImage {sigstore : Sigstoreimpl} {imageID : String}
    (h : (ShouldSkipImage sigstore imageID).1 = true) : imageID ∈ (policyOf sigstore).skipList := by
  by_cases hid : imageID = ""
  · cases hs : sigstore.skippedImages <;> simp [ShouldSkipImage, hs, hid] at h
  · simpa [shouldSkipImage_eq sigstore hid] using h

/-- The engine's allow check is the abstract one. -/
theorem suppressed_eq (sigstore : Sigstoreimpl) (subject : String) :
    suppressed sigstore subject = !(policyOf sigstore).isAllowed subject := by
  simp [suppressed, PolicySets.isAllowed, policyOf]

/-- A signature with a non-empty subject comes out unverified exactly when its subject is
suppressed; otherwise it comes out verified or panics. -/
theorem selectorValues_suppressed_iff (lib : Lib) (sigstore : Sigstoreimpl)
    {signature : Option Signature} {subject : String}
    (hsub : getSignatureSubject signature = some subject) (hne : subject ≠ "")
    (containerID : String) :
    (SelectorValuesFromSignature lib sigstore signature containerID).map (·.Verified) = some false ↔
      suppressed sigstore subject = true := by
  obtain ⟨sig, rfl⟩ : ∃ sig, signature = some sig := by
    cases signature
    · cases hsub
    · exact ⟨_, rfl⟩
  simp only [SelectorValuesFromSignature, hsub, if_neg hne]
  split_ifs with hs
  · simp [hs]
  · cases hb : bundleSelectors lib.decodeString { Subject := subject, Verified := true } sig.Bundle
    · simp [hs]
    · simp [hs, (bundleSelectors_subject lib hb).2]

/-- **The policy sets.**  Over every sequence of policy calls from `New`: no call panics, the
engine's lists are the abstract sets; for a non-empty image ID, `ShouldSkipImage` returns no
error and skips exactly the images added since the last `ClearSkipList`; and a signature with
a non-empty subject is suppressed exactly when the allow list is enforced and the subject
was not added since the last `ClearAllowedSubjects`. -/
theorem policy_sets_refinement (lib : Lib) (cache : Cacheimpl (List SelectorsFromSignatures))
    (ops : List PolicyOp) :
    ∃ sigstore, runPolicy (New lib cache) ops = some sigstore ∧
      policyOf sigstore = PolicySets.empty.run ops ∧
      (∀ imageID, imageID ≠ "" → (ShouldSkipImage sigstore imageID).2 = none ∧
        ((ShouldSkipImage sigstore imageID).1 = true ↔
          AddedSinceClear .addSkippedImage .clearSkipList imageID ops)) ∧
      (∀ signature subject containerID, getSignatureSubject signature = some subject →
        subject ≠ "" →
        ((SelectorValuesFromSignature lib sigstore signature containerID).map (·.Verified) =
            some false ↔
          sigstore.allowListEnabled = true ∧
            ¬AddedSinceClear .addAllowedSubject .clearAllowedSubjects subject ops)) := by
  obtain ⟨sigstore, hrun, hp⟩ := runPolicy_refines ops (New lib cache)
  rw [policyOf_new] at hp
  have hskip (k : String) :=
    mem_run_iff PolicySets.skipList k (fun _ _ => PolicySets.mem_skipList_apply) ops .empty
  have hallow (k : String) :=
    mem_run_iff PolicySets.allowList k (fun _ _ => PolicySets.mem_allowList_apply) ops .empty
  simp only [← hp] at hskip hallow
  simp only [policyOf, PolicySets.empty, Finset.not_mem_empty, false_and, false_or] at hskip hallow
  refine ⟨sigstore, hrun, hp, fun imageID h => ?_, fun _ subject _ hsub hne => ?_⟩
  · simp [shouldSkipImage_eq sigstore h, policyOf, hskip]
  · rw [selectorValues_suppressed_iff lib sigstore hsub hne, suppressed_eq]
    simp [PolicySets.isAllowed, policyOf, hallow]

end Sigstore
