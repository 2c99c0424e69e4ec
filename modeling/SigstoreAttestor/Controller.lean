import SigstoreAttestor.Engine
import SigstoreAttestor.Variants

/-!
# The workload registrar

The registrar (`controller.go`) is a validating admission webhook that keeps the SPIRE
server's registration entries in step with the cluster's pods.  A `CREATE` review of a pod
registers one entry, parented by the cluster's node entry, under the pod's SPIFFE ID and three
selectors: `k8s:ns:<namespace>`, `k8s:pod-name:<name>` and
`k8s:image-signature-subject:<subject>`.  The subject is the registrar's `getSubjectImage` of
the signatures `cosign.Verify` returns for one fixed image,
`registry.me:5000/spire-agent:latest-local`, whatever images the pod runs; a failed
verification is only logged and leaves the subject empty.  A `DELETE` review lists the
entries selected by `k8s:ns:<namespace>` and `k8s:pod-name:<name>` and deletes them.

The entry server is not in the repository.  Its state is a parameter `σ` and its three calls
are functions on it (`EntryClient`).  Reviews are taken one at a time: the webhook server may
run a `DELETE`'s list and delete calls with other reviews' calls in between, which the model
does not cover.  The list request
leaves `SelectorMatch.Match` at its zero value, `MATCH_EXACT`, under which the server lists
the entries whose selector set is the request's; `ExactEntryServer` states that and what the
other two calls may do to the store.  Under those laws a review removes only entries whose
selectors are exactly its `DELETE` query's, so an entry the registrar registered, which
carries a third selector, outlives every later review, the pod's own `DELETE` included.

The payload fetch is the agent plugin's `FetchSignaturePayload` (`sigstore.go`) with the
endpoint of a fresh `HCLController`, the empty string; the two are one definition.  A review
panics only where it has no request, or where it registers a pod while `cosign.Verify`
answers with an empty, non-nil list: `getSubjectImage` then reads the first element of an
empty list.  `idutil.FormatPath` is taken as total.

## Main definitions

* `fetchSignaturePayloadOf` — the fetch shared by the agent plugin and the registrar.
* `ControllerConfig`, `Pod`, `AdmissionRequest`, `Entry` — what the registrar reads and
  sends.
* `EntryClient` — the entry API over the server's state.
* `createEntry`, `createPodEntry`, `deletePodEntry`, `reviewAdmission`, `ReviewAdmission`,
  `Initialize` — the controller.
* `runRegistrar` — a run of reviews.
* `ExactEntryServer` — the entry server's laws under exact selector matching.

## Main results

* `createEntry_snd_eq_none`, `deletePodEntry_succeeds_iff` — when a create and a delete report
  success.
* `reviewAdmission_removes`, `runRegistrar_removes` — an entry leaves the store only in a
  `DELETE` review whose query has exactly its selectors.
* `registered_pod_entry_kept` — an entry a `CREATE` registered stays through every later run.
* `getSubjectImage_eq_none_iff`, `ReviewAdmission_eq_none_iff` — the one panic of a review.
-/

namespace Sigstore

/-! ### The payload fetch -/

/-- The calls the payload fetch makes outside the repository, besides `cosign.Verify`. -/
structure PayloadLib where
  /-- `name.ParseReference`. -/
  ParseReference : String → Except String Reference
  /-- `cli.TargetRepositoryForImage`, by the repository's name. -/
  TargetRepositoryForImage : Reference → Except String String

/-- The `cosign.CheckOpts` the payload fetch fills in besides `RootCerts`, which is always
`fulcio.GetRoots()`. -/
structure PayloadCheckOpts where
  /-- `RekorURL`. -/
  RekorURL : String
  /-- `SignatureRepo`, by the repository's name. -/
  SignatureRepo : String
  deriving DecidableEq

/-- What `cosign.Verify` answers: its error, or the verified signatures, `none` for a nil
slice. -/
abbrev PayloadVerify := Reference → PayloadCheckOpts → Except String (Option (List SignedPayload))

/-- `FetchSignaturePayload` of the agent plugin and `getSignaturePayload` of the registrar:
the reference parsed, the signature repository found, and the signatures verified against
the endpoint `rekorURL`; each error prefixed by the step that failed. -/
def fetchSignaturePayloadOf (lib : PayloadLib) (verify : PayloadVerify) (imageName rekorURL : String) :
    Except String (Option (List SignedPayload)) :=
  match lib.ParseReference imageName with
  | .error err => .error ("Error parsing the image reference: " ++ err)
  | .ok ref =>
    match lib.TargetRepositoryForImage ref with
    | .error err => .error ("TargetRepositoryForImage returned error: " ++ err)
    | .ok sigRepo =>
      match verify ref ⟨rekorURL, sigRepo⟩ with
      | .error err => .error ("Error verifying signature: " ++ err)
      | .ok verified => .ok verified

/-- The agent plugin's `Sigstoreimpl`: the verifier, `cosign.Verify` as `New` sets it. -/
structure Plugin.Sigstoreimpl where
  /-- `verifyFunction`. -/
  verifyFunction : PayloadVerify

/-- `FetchSignaturePayload` of the agent plugin, with the caller's endpoint. -/
def Plugin.Sigstoreimpl.FetchSignaturePayload (lib : PayloadLib) (sigstore : Plugin.Sigstoreimpl)
    (imageName rekorURL : String) : Except String (Option (List SignedPayload)) :=
  fetchSignaturePayloadOf lib sigstore.verifyFunction imageName rekorURL

namespace Registrar

/-! ### What the registrar reads and sends -/

/-- `HCLController`, the configuration parsed from HCL. -/
structure HCLController where
  /-- `rekor_url`. -/
  RekorURL : String := ""

/-- `types.SPIFFEID`. -/
structure SPIFFEID where
  /-- `TrustDomain`. -/
  TrustDomain : String
  /-- `Path`. -/
  Path : String
  deriving DecidableEq

/-- `types.Selector`. -/
structure Selector where
  /-- `Type`. -/
  type : String
  /-- `Value`. -/
  Value : String
  deriving DecidableEq

/-- `types.Entry`, by the fields the registrar sets and the server's `Id`. -/
structure Entry where
  /-- `Id`, left empty in a create request. -/
  Id : String := ""
  /-- `ParentId`. -/
  ParentId : SPIFFEID
  /-- `SpiffeId`. -/
  SpiffeId : SPIFFEID
  /-- `Selectors`. -/
  Selectors : List Selector
  /-- `FederatesWith`. -/
  FederatesWith : List String := []
  deriving DecidableEq

/-- `corev1.Pod`, by the fields the registrar reads. -/
structure Pod where
  /-- `Namespace`. -/
  Namespace : String
  /-- `Name`. -/
  Name : String
  /-- `Labels`. -/
  Labels : List (String × String)
  /-- `Annotations`. -/
  Annotations : List (String × String)
  /-- `Spec.ServiceAccountName`. -/
  ServiceAccountName : String
  deriving DecidableEq

/-- The calls the registrar makes outside the repository, besides the entry API and
`cosign.Verify`. -/
structure RegistrarLib extends PayloadLib where
  /-- `idutil.FormatPath`, taken as total. -/
  FormatPath : String → List String → String
  /-- `idutil.ServerIDPath`. -/
  ServerIDPath : String
  /-- `federation.GetFederationDomains`. -/
  GetFederationDomains : Pod → List String
  /-- `%q` of a string. -/
  Quote : String → String

/-- `ControllerConfig`, by the fields the controller reads besides its entry client. -/
structure ControllerConfig where
  /-- `TrustDomain`. -/
  TrustDomain : String
  /-- `Cluster`. -/
  Cluster : String
  /-- `PodLabel`. -/
  PodLabel : String
  /-- `PodAnnotation`. -/
  PodAnnotation : String
  /-- The keys of `DisabledNamespaces`: the controller tests a key's presence, not its
  value. -/
  DisabledNamespaces : List String

/-- `metav1.GroupVersionKind`. -/
structure GroupVersionKind where
  /-- `Group`. -/
  Group : String := ""
  /-- `Version`. -/
  Version : String := ""
  /-- `Kind`. -/
  Kind : String := ""
  deriving DecidableEq

/-- `admv1.AdmissionRequest`, by the fields the controller reads. -/
structure AdmissionRequest where
  /-- `UID`. -/
  UID : String
  /-- `Kind`. -/
  Kind : GroupVersionKind
  /-- `Namespace`. -/
  Namespace : String
  /-- `Name`. -/
  Name : String
  /-- `Operation`. -/
  Operation : String
  /-- `json.Unmarshal` of `Object.Raw` into a `corev1.Pod`: the pod, or the decoder's
  error. -/
  Object : Except String Pod

/-- `admv1.AdmissionReview`: its request, `none` for a nil pointer. -/
structure AdmissionReview where
  /-- `Request`. -/
  Request : Option AdmissionRequest

/-- `admv1.AdmissionResponse`, by the fields the controller sets. -/
structure AdmissionResponse where
  /-- `UID`. -/
  UID : String
  /-- `Allowed`. -/
  Allowed : Bool
  deriving DecidableEq

/-- `admv1.Create`. -/
def admv1.Create : String := "CREATE"

/-- `admv1.Delete`. -/
def admv1.Delete : String := "DELETE"

/-! ### The entry API -/

/-- A Go `error` the registrar returns, by how it was made. -/
inductive GoError where
  /-- `errors.New(text)`, and an error of a call outside the repository, by its text. -/
  | new (text : String)
  /-- `status.Error(code, message)` for a code other than `OK`. -/
  | status (code : ℤ) (message : String)
  /-- `errs.New(format, ..., err)`: the text before the wrapped error, and the error. -/
  | wrap (text : String) (err : GoError)
  /-- What `errs.Group.Err()` returns for two errors or more. -/
  | group (errs : List GoError)

/-- `codes.OK`. -/
def codes.OK : ℤ := 0

/-- `codes.Unknown`. -/
def codes.Unknown : ℤ := 2

/-- `codes.NotFound`. -/
def codes.NotFound : ℤ := 5

/-- `codes.AlreadyExists`. -/
def codes.AlreadyExists : ℤ := 6

/-- `types.Status`. -/
structure Status where
  /-- `Code`, an `int32`. -/
  Code : ℤ
  /-- `Message`. -/
  Message : String
  deriving DecidableEq

/-- `types.SelectorMatch_MatchBehavior`. -/
inductive MatchBehavior where
  /-- `MATCH_EXACT`, the zero value: the entries whose selector set is the request's. -/
  | MATCH_EXACT
  /-- `MATCH_SUBSET`: the entries whose selectors are among the request's. -/
  | MATCH_SUBSET
  deriving DecidableEq

/-- `types.SelectorMatch`. -/
structure SelectorMatch where
  /-- `Selectors`. -/
  Selectors : List Selector
  /-- `Match`. -/
  Match : MatchBehavior := .MATCH_EXACT

/-- `BatchCreateEntryResponse_Result`, by its status; its entry is not read. -/
structure CreateResult where
  /-- `Status`, `none` for a nil pointer. -/
  Status : Option Status

/-- `BatchDeleteEntryResponse_Result`. -/
structure DeleteResult where
  /-- `Status`, `none` for a nil pointer. -/
  Status : Option Status
  /-- `Id`. -/
  Id : String

/-- The entry API over the server's state `σ`: each call gives the state after it and the
response, or the call's error. -/
structure EntryClient (σ : Type) where
  /-- `ListEntries` with a `BySelectors` filter, by the entries listed. -/
  ListEntries : σ → SelectorMatch → σ × Except GoError (List Entry)
  /-- `BatchCreateEntry`, by the results. -/
  BatchCreateEntry : σ → List Entry → σ × Except GoError (List CreateResult)
  /-- `BatchDeleteEntry`, by the results. -/
  BatchDeleteEntry : σ → List String → σ × Except GoError (List DeleteResult)

/-- `status.Code(err)`: `OK` for nil, a status error's code, `Unknown` for any other error. -/
def statusCode : Option GoError → ℤ
  | none => codes.OK
  | some (.status code _) => code
  | some _ => codes.Unknown

@[simp] theorem statusCode_none : statusCode none = codes.OK := rfl

@[simp] theorem statusCode_new (text : String) : statusCode (some (.new text)) = codes.Unknown := rfl

@[simp] theorem statusCode_status (code : ℤ) (message : String) :
    statusCode (some (.status code message)) = code := rfl

/-- `errorFromStatus`; `status.Error` is nil for the code `OK`. -/
def errorFromStatus : Option Status → Option GoError
  | none => some (.new "result status is unexpectedly nil")
  | some s => if s.Code = codes.OK then none else some (.status s.Code s.Message)

/-- `errs.Group.Err()`: nil for no error, the error for one, their group for more. -/
def errsGroupErr : List GoError → Option GoError
  | [] => none
  | [err] => some err
  | errs => some (.group errs)

/-! ### The controller -/

section Controller

variable {σ : Type} (lib : RegistrarLib) (c : ControllerConfig) (E : EntryClient σ)

/-- `makeID`: the trust domain, and the path formatted. -/
def makeID (pathFmt : String) (pathArgs : List String) : SPIFFEID :=
  ⟨c.TrustDomain, lib.FormatPath pathFmt pathArgs⟩

/-- `nodeID`: the cluster's node entry. -/
def nodeID : SPIFFEID := makeID lib c "/k8s-workload-registrar/%s/node" [c.Cluster]

/-- `podSpiffeID`: from the configured label, else from the configured annotation, `none`
when the pod lacks it; from the namespace and the service account when neither is
configured. -/
def podSpiffeID (pod : Pod) : Option SPIFFEID :=
  if c.PodLabel ≠ "" then (pod.Labels.lookup c.PodLabel).map fun labelValue => makeID lib c "/%s" [labelValue]
  else if c.PodAnnotation ≠ "" then
    (pod.Annotations.lookup c.PodAnnotation).map fun annotationValue => makeID lib c "/%s" [annotationValue]
  else some (makeID lib c "/ns/%s/sa/%s" [pod.Namespace, pod.ServiceAccountName])

/-- `namespaceSelector`. -/
def namespaceSelector (ns : String) : Selector := ⟨"k8s", "ns:" ++ ns⟩

/-- `podNameSelector`. -/
def podNameSelector (podName : String) : Selector := ⟨"k8s", "pod-name:" ++ podName⟩

/-- `subjectSelector`. -/
def subjectSelector (subjectImage : String) : Selector :=
  ⟨"k8s", "image-signature-subject:" ++ subjectImage⟩

/-- `getSignaturePayload`: the fetch, with the endpoint of a fresh `HCLController`. -/
def getSignaturePayload (verify : PayloadVerify) (image : String) :
    Except String (Option (List SignedPayload)) :=
  let config : HCLController := {}
  fetchSignaturePayloadOf lib.toPayloadLib verify image config.RekorURL

/-- `getselectorOfSignedImage`. -/
def getselectorOfSignedImage (payload : Option (List SignedPayload)) : Option String :=
  selectorOfSignedImageOf getSubjectImage payload

/-- `createEntry`: one entry in a batch create; success for `OK` and `AlreadyExists`. -/
def createEntry (s : σ) (entry : Entry) : σ × Option GoError :=
  match E.BatchCreateEntry s [entry] with
  | (s, .error err) => (s, some err)
  | (s, .ok (_ :: _ :: _)) => (s, some (.new "batch create response has too many results"))
  | (s, .ok []) => (s, some (.new "batch create response result empty"))
  | (s, .ok [result]) =>
    let err := errorFromStatus result.Status
    if statusCode err = codes.OK ∨ statusCode err = codes.AlreadyExists then (s, none) else (s, err)

/-- The image whose signatures name the subject of every pod entry. -/
def signedImage : String := "registry.me:5000/spire-agent:latest-local"

/-- `createPodEntry`; `none` where it panics. -/
def createPodEntry (verify : PayloadVerify) (s : σ) (pod : Pod) : Option (σ × Option GoError) :=
  match podSpiffeID lib c pod with
  | none => some (s, none)
  | some spiffeID =>
    let signedPayload := match getSignaturePayload lib verify signedImage with
      | .ok verified => verified
      | .error _ => none
    let federationDomains := lib.GetFederationDomains pod
    (getselectorOfSignedImage signedPayload).map fun subject =>
      createEntry E s
        { ParentId := nodeID lib c, SpiffeId := spiffeID,
          Selectors := [namespaceSelector pod.Namespace, podNameSelector pod.Name, subjectSelector subject],
          FederatesWith := federationDomains }

/-- The errors the loop over `deleteResp.Results` adds to its `errs.Group`: one per result
whose status has a code other than `OK` and `NotFound`, a nil status among them. -/
def deleteErrors (results : List DeleteResult) : List GoError :=
  results.filterMap fun result =>
    (errorFromStatus result.Status).bind fun err =>
      if statusCode (some err) = codes.OK ∨ statusCode (some err) = codes.NotFound then none
      else some (.wrap ("unable to delete entry " ++ lib.Quote result.Id ++ ": ") err)

/-- `deletePodEntry`: the entries listed by the pod's namespace and name, deleted. -/
def deletePodEntry (s : σ) (ns name : String) : σ × Option GoError :=
  match E.ListEntries s { Selectors := [namespaceSelector ns, podNameSelector name] } with
  | (s, .error err) => (s, some (.wrap "unable to list pod entries: " err))
  | (s, .ok entries) =>
    let entriesToDelete := entries.map (·.Id)
    match E.BatchDeleteEntry s entriesToDelete with
    | (s, .error err) => (s, some (.wrap "unable to delete pod entries: " err))
    | (s, .ok results) => (s, errsGroupErr (deleteErrors lib results))

/-- `reviewAdmission`: a `CREATE` or `DELETE` of a `v1` `Pod` outside the disabled
namespaces; `none` where it panics. -/
def reviewAdmission (verify : PayloadVerify) (s : σ) (req : AdmissionRequest) :
    Option (σ × Option GoError) :=
  if req.Namespace ∈ c.DisabledNamespaces then some (s, none)
  else if req.Kind ≠ { Version := "v1", Kind := "Pod" } then some (s, none)
  else if req.Operation = admv1.Create then
    match req.Object with
    | .error err =>
      some (s, some (.wrap ("unable to unmarshal " ++ req.Kind.Version ++ "/" ++ req.Kind.Kind ++
        " object: ") (.new err)))
    | .ok pod => createPodEntry lib c E verify s pod
  else if req.Operation = admv1.Delete then some (deletePodEntry lib E s req.Namespace req.Name)
  else some (s, none)

/-- `ReviewAdmission`: the request allowed, or the error; `none` where it panics, a review
without a request among them. -/
def ReviewAdmission (verify : PayloadVerify) (s : σ) (ar : AdmissionReview) :
    Option (σ × Except GoError AdmissionResponse) :=
  ar.Request.bind fun req =>
    (reviewAdmission lib c E verify s req).map fun (s, err) =>
      (s, match err with
        | some err => .error err
        | none => .ok ⟨req.UID, true⟩)

/-- `Initialize`: the node entry of the cluster's PSAT nodes. -/
def Initialize (s : σ) : σ × Option GoError :=
  createEntry E s
    { ParentId := makeID lib c "%s" [lib.ServerIDPath], SpiffeId := nodeID lib c,
      Selectors := [⟨"k8s_psat", "cluster:" ++ c.Cluster⟩] }

/-- A review, with what `cosign.Verify` answers while it is handled. -/
structure Review where
  /-- The admission review. -/
  review : AdmissionReview
  /-- The verifier's answers. -/
  verify : PayloadVerify

/-- A run of reviews, one at a time; `none` if one panics. -/
def runRegistrar : σ → List Review → Option σ
  | s, [] => some s
  | s, r :: rs => (ReviewAdmission lib c E r.verify s r.review).bind fun (s, _) => runRegistrar s rs

end Controller

/-! ### What the entry calls report -/

section Reports

variable {σ : Type} {lib : RegistrarLib} {E : EntryClient σ}

/-- `createEntry` succeeds exactly when the server answers one result, whose status has the
code `OK` or `AlreadyExists`; a nil status is a failure. -/
theorem createEntry_snd_eq_none (s : σ) (entry : Entry) :
    (createEntry E s entry).2 = none ↔ ∃ st, (E.BatchCreateEntry s [entry]).2 = .ok [⟨some st⟩] ∧
      (st.Code = codes.OK ∨ st.Code = codes.AlreadyExists) := by
  unfold createEntry
  rcases E.BatchCreateEntry s [entry] with ⟨s', _ | _ | ⟨⟨_ | st⟩, _ | _⟩⟩ <;> try simp
  · simp [errorFromStatus, codes.Unknown, codes.OK, codes.AlreadyExists]
  · by_cases hc : st.Code = codes.OK
    · simp [errorFromStatus, hc]
    · simp only [errorFromStatus, hc, if_false, statusCode_status, false_or]
      split_ifs <;> simpa

/-- `errs.Group.Err()` is nil exactly for an empty group. -/
theorem errsGroupErr_eq_none_iff (errs : List GoError) : errsGroupErr errs = none ↔ errs = [] := by
  rcases errs with _ | ⟨_, _ | _⟩ <;> simp [errsGroupErr]

/-- The delete loop adds no error exactly when every result has a status with the code `OK` or
`NotFound`. -/
theorem deleteErrors_eq_nil_iff (results : List DeleteResult) :
    deleteErrors lib results = [] ↔ ∀ r ∈ results, ∃ st, r.Status = some st ∧
      (st.Code = codes.OK ∨ st.Code = codes.NotFound) := by
  simp only [deleteErrors, List.filterMap_eq_nil_iff]
  refine forall₂_congr fun r _ => ?_
  rcases r.Status with _ | st
  · simp [errorFromStatus, codes.Unknown, codes.OK, codes.NotFound]
  · by_cases hc : st.Code = codes.OK <;> simp [errorFromStatus, hc]

/-- **What a `DELETE` reports.**  `deletePodEntry` returns no error exactly when the list
call and the delete call both answer, and every result of the delete carries a status whose
code is `OK` or `NotFound`: an entry already gone is a success, a nil status a failure. -/
theorem deletePodEntry_succeeds_iff (s : σ) (ns name : String) :
    (deletePodEntry lib E s ns name).2 = none ↔
      ∃ listed results,
        (E.ListEntries s { Selectors := [namespaceSelector ns, podNameSelector name] }).2 = .ok listed ∧
        (E.BatchDeleteEntry (E.ListEntries s { Selectors := [namespaceSelector ns, podNameSelector name] }).1
          (listed.map (·.Id))).2 = .ok results ∧
        ∀ r ∈ results, ∃ st, r.Status = some st ∧ (st.Code = codes.OK ∨ st.Code = codes.NotFound) := by
  unfold deletePodEntry
  rcases E.ListEntries s { Selectors := [namespaceSelector ns, podNameSelector name] } with
    ⟨s₁, err | listed⟩
  · simp only [reduceCtorEq, false_and, exists_false, iff_false]
  · dsimp only
    split <;> next hd =>
      simp only [hd, Except.ok.injEq, exists_and_left, exists_eq_left', reduceCtorEq, false_and,
        exists_false, iff_false, true_and, errsGroupErr_eq_none_iff, deleteErrors_eq_nil_iff]

end Reports

/-! ### The entry server's laws -/

/-- Two selector lists with the same selectors. -/
def SameSelectors (xs ys : List Selector) : Prop := xs ⊆ ys ∧ ys ⊆ xs

instance (xs ys : List Selector) : Decidable (SameSelectors xs ys) :=
  inferInstanceAs (Decidable (_ ∧ _))

/-- The entry server's laws, as the registrar relies on them; `entries s` is the store in
state `s`. -/
structure ExactEntryServer {σ : Type} (E : EntryClient σ) (entries : σ → List Entry) : Prop where
  /-- Listing changes nothing. -/
  list_state : ∀ s q, (E.ListEntries s q).1 = s
  /-- Under `MATCH_EXACT`, an id is listed only if every entry with that id has exactly the
  request's selectors. -/
  list_exact : ∀ s q listed, q.Match = .MATCH_EXACT → (E.ListEntries s q).2 = .ok listed →
    ∀ l ∈ listed, ∀ e ∈ entries s, e.Id = l.Id → SameSelectors e.Selectors q.Selectors
  /-- A delete removes only entries whose id it names. -/
  delete_named : ∀ s ids, ∀ e ∈ entries s, e.Id ∉ ids → e ∈ entries (E.BatchDeleteEntry s ids).1
  /-- A create removes nothing. -/
  create_keeps : ∀ s es, ∀ e ∈ entries s, e ∈ entries (E.BatchCreateEntry s es).1
  /-- A create of one entry answered `OK` or `AlreadyExists` leaves an entry with its parent,
  SPIFFE ID and selectors. -/
  create_stores : ∀ s entry st, (E.BatchCreateEntry s [entry]).2 = .ok [⟨some st⟩] →
    st.Code = codes.OK ∨ st.Code = codes.AlreadyExists →
    ∃ e ∈ entries (E.BatchCreateEntry s [entry]).1, e.ParentId = entry.ParentId ∧
      e.SpiffeId = entry.SpiffeId ∧ SameSelectors e.Selectors entry.Selectors

/-- No subject selector is among a `DELETE` query's: their values start differently. -/
theorem subjectSelector_not_mem (subject ns name : String) :
    subjectSelector subject ∉ [namespaceSelector ns, podNameSelector name] := by
  simp only [List.mem_cons, List.mem_singleton, List.not_mem_nil, or_false, not_or]
  constructor <;> intro h <;> have := congrArg (fun x : Selector => x.Value.data.head?) h <;>
    simp [subjectSelector, namespaceSelector, podNameSelector, String.data_append] at this

/-- An entry server over a list of entries: it lists the entries every entry of whose id has
the request's selectors, appends what it creates, and deletes by id, answering `OK`. -/
def listEntryServer : EntryClient (List Entry) where
  ListEntries s q := (s, .ok (s.filter fun l =>
    s.all fun e => e.Id != l.Id || decide (SameSelectors e.Selectors q.Selectors)))
  BatchCreateEntry s es := (s ++ es, .ok (es.map fun _ => ⟨some ⟨codes.OK, ""⟩⟩))
  BatchDeleteEntry s ids :=
    (s.filter fun e => decide (e.Id ∉ ids), .ok (ids.map fun id => ⟨some ⟨codes.OK, ""⟩, id⟩))

/-- The list server keeps the laws. -/
theorem listEntryServer_exact : ExactEntryServer listEntryServer id where
  list_state _ _ := rfl
  list_exact s q listed _ h l hl e he hid := by
    cases h
    simp only [List.mem_filter, List.all_eq_true, Bool.or_eq_true, bne_iff_ne, ne_eq,
      decide_eq_true_eq] at hl
    exact (hl.2 e he).resolve_left (not_not.2 hid)
  delete_named s ids e he hid := List.mem_filter.2 ⟨he, decide_eq_true hid⟩
  create_keeps _ _ _ he := List.mem_append_left _ he
  create_stores _ entry _ _ _ :=
    ⟨entry, List.mem_append_right _ (List.mem_singleton_self _), rfl, rfl, List.Subset.refl _,
      List.Subset.refl _⟩

/-! ### What a review removes -/

section Laws

variable {σ : Type} {lib : RegistrarLib} {c : ControllerConfig} {E : EntryClient σ}
  {entries : σ → List Entry}

/-- What `createEntry` does to the store is its one create call. -/
theorem createEntry_fst (s : σ) (entry : Entry) :
    (createEntry E s entry).1 = (E.BatchCreateEntry s [entry]).1 := by
  unfold createEntry
  rcases E.BatchCreateEntry s [entry] with ⟨s', _ | _ | ⟨r, _ | _⟩⟩ <;> try rfl
  dsimp only
  split_ifs <;> rfl

/-- What `createPodEntry` does to the store is nothing, or one create call. -/
theorem createPodEntry_fst {verify : PayloadVerify} {s s' : σ} {pod : Pod} {err : Option GoError}
    (h : createPodEntry lib c E verify s pod = some (s', err)) :
    s' = s ∨ ∃ entry, s' = (E.BatchCreateEntry s [entry]).1 := by
  unfold createPodEntry at h
  split at h
  · cases h; exact .inl rfl
  · obtain ⟨_, -, h⟩ := Option.map_eq_some'.1 h
    exact .inr ⟨_, by rw [← createEntry_fst, h]⟩

/-- A `DELETE` removes only entries whose selectors are exactly its query's. -/
theorem deletePodEntry_removes (hE : ExactEntryServer E entries) {s : σ} {ns name : String}
    {e : Entry} (he : e ∈ entries s) (hgone : e ∉ entries (deletePodEntry lib E s ns name).1) :
    SameSelectors e.Selectors [namespaceSelector ns, podNameSelector name] := by
  by_contra hsame
  apply hgone
  set q : SelectorMatch := { Selectors := [namespaceSelector ns, podNameSelector name] }
  have hs := hE.list_state s q
  have hx := hE.list_exact s q
  unfold deletePodEntry
  rcases hl : E.ListEntries s q with ⟨s₁, err | listed⟩ <;> rw [hl] at hs hx <;>
    obtain rfl : s₁ = s := hs
  · exact he
  · have hid : e.Id ∉ listed.map (·.Id) := fun hmem => by
      obtain ⟨l, hl', hle⟩ := List.mem_map.1 hmem
      exact hsame (hx listed rfl rfl l hl' e he hle.symm)
    have hkept := hE.delete_named _ _ e he hid
    dsimp only
    split <;> next hd => rw [hd] at hkept; exact hkept

/-- A review removes an entry only if it is a `DELETE` whose query has exactly the entry's
selectors. -/
theorem reviewAdmission_removes (hE : ExactEntryServer E entries) {verify : PayloadVerify}
    {s s' : σ} {req : AdmissionRequest} {err : Option GoError}
    (h : reviewAdmission lib c E verify s req = some (s', err)) {e : Entry} (he : e ∈ entries s)
    (hgone : e ∉ entries s') :
    req.Operation = admv1.Delete ∧
      SameSelectors e.Selectors [namespaceSelector req.Namespace, podNameSelector req.Name] := by
  unfold reviewAdmission at h
  by_cases hdis : req.Namespace ∈ c.DisabledNamespaces
  · rw [if_pos hdis] at h; cases h; exact absurd he hgone
  by_cases hkind : req.Kind ≠ { Version := "v1", Kind := "Pod" }
  · rw [if_neg hdis, if_pos hkind] at h; cases h; exact absurd he hgone
  rw [if_neg hdis, if_neg hkind] at h
  split_ifs at h with hcreate hdelete
  · split at h
    · cases h; exact absurd he hgone
    · rcases createPodEntry_fst h with rfl | ⟨entry, rfl⟩
      · exact absurd he hgone
      · exact absurd (hE.create_keeps _ _ e he) hgone
  · have hs' : (deletePodEntry lib E s req.Namespace req.Name).1 = s' :=
      congrArg Prod.fst (Option.some.inj h)
    exact ⟨hdelete, deletePodEntry_removes hE he (hs' ▸ hgone)⟩
  · cases h; exact absurd he hgone

/-- Over a run, an entry leaves the store only in a `DELETE` review whose query has exactly
its selectors. -/
theorem runRegistrar_removes (hE : ExactEntryServer E entries) :
    ∀ (reviews : List Review) {s s' : σ}, runRegistrar lib c E s reviews = some s' →
      ∀ e ∈ entries s, e ∉ entries s' → ∃ r ∈ reviews, ∃ req, r.review.Request = some req ∧
        req.Operation = admv1.Delete ∧
        SameSelectors e.Selectors [namespaceSelector req.Namespace, podNameSelector req.Name]
  | [], _, _, h, e, he, hgone => by cases h; exact absurd he hgone
  | r :: rs, s, s', h, e, he, hgone => by
    simp only [runRegistrar, Option.bind_eq_some] at h
    obtain ⟨⟨s₁, resp⟩, h₁, h⟩ := h
    by_cases he₁ : e ∈ entries s₁
    · obtain ⟨r', hr', hr⟩ := runRegistrar_removes hE rs h e he₁ hgone
      exact ⟨r', List.mem_cons_of_mem _ hr', hr⟩
    · obtain ⟨req, hreq, h₁⟩ := Option.bind_eq_some.1 h₁
      obtain ⟨⟨s₂, err⟩, h₂, heq⟩ := Option.map_eq_some'.1 h₁
      cases heq
      exact ⟨r, List.mem_cons_self _ _, req, hreq, reviewAdmission_removes hE h₂ he he₁⟩

/-- A `createPodEntry` that succeeds for a pod with a SPIFFE ID leaves an entry with the pod's
parent, SPIFFE ID and three selectors. -/
theorem createPodEntry_stores (hE : ExactEntryServer E entries) {verify : PayloadVerify}
    {s s' : σ} {pod : Pod} {spiffeID : SPIFFEID} (hid : podSpiffeID lib c pod = some spiffeID)
    (h : createPodEntry lib c E verify s pod = some (s', none)) :
    ∃ e ∈ entries s', e.ParentId = nodeID lib c ∧ e.SpiffeId = spiffeID ∧ ∃ subject,
      SameSelectors e.Selectors
        [namespaceSelector pod.Namespace, podNameSelector pod.Name, subjectSelector subject] := by
  unfold createPodEntry at h
  rw [hid] at h
  obtain ⟨subject, -, h⟩ := Option.map_eq_some'.1 h
  obtain ⟨st, hst, hcode⟩ := (createEntry_snd_eq_none _ _).1 (congrArg Prod.snd h)
  obtain ⟨e, he, hp, hsp, hsel⟩ := hE.create_stores _ _ st hst hcode
  rw [← createEntry_fst, h] at he
  exact ⟨e, he, hp, hsp, subject, hsel⟩

end Laws

/-- **The registrar never removes the entries it registers.**  With an entry server that
lists by exact selector sets, an entry a successful `createPodEntry` registered for a pod stays
in the store through every later run of reviews, `DELETE` reviews of the same pod included:
their query names two of its three selectors. -/
theorem registered_pod_entry_kept {σ : Type} {lib : RegistrarLib} {c : ControllerConfig}
    {E : EntryClient σ} {entries : σ → List Entry} (hE : ExactEntryServer E entries)
    {verify : PayloadVerify} {s s₁ s₂ : σ} {pod : Pod} {spiffeID : SPIFFEID}
    (hid : podSpiffeID lib c pod = some spiffeID)
    (hcreate : createPodEntry lib c E verify s pod = some (s₁, none)) (reviews : List Review)
    (hrun : runRegistrar lib c E s₁ reviews = some s₂) :
    ∃ e ∈ entries s₂, e.ParentId = nodeID lib c ∧ e.SpiffeId = spiffeID ∧ ∃ subject,
      SameSelectors e.Selectors
        [namespaceSelector pod.Namespace, podNameSelector pod.Name, subjectSelector subject] := by
  obtain ⟨e, he, hp, hsp, subject, hsel⟩ := createPodEntry_stores hE hid hcreate
  refine ⟨e, ?_, hp, hsp, subject, hsel⟩
  by_contra hgone
  obtain ⟨_, -, req, -, -, hq⟩ := runRegistrar_removes hE reviews hrun e he hgone
  exact subjectSelector_not_mem subject req.Namespace req.Name
    (hq.1 (hsel.2 (by simp)))


/-- A library whose references are tags and whose paths are the format and its arguments. -/
def demoLib : RegistrarLib where
  ParseReference s := .ok (.tag s)
  TargetRepositoryForImage _ := .ok "registry.me:5000/spire-agent"
  FormatPath pathFmt pathArgs := String.intercalate "/" (pathFmt :: pathArgs)
  ServerIDPath := "/spire/server"
  GetFederationDomains _ := []
  Quote s := s

/-- A registrar configured by neither label nor annotation. -/
def demoConfig : ControllerConfig := ⟨"example.org", "demo", "", "", ["kube-system"]⟩

/-- A pod `web` in the namespace `default`. -/
def webPod : Pod := ⟨"default", "web", [], [], "default"⟩

/-- A verifier that finds no signature. -/
def noSignatures : PayloadVerify := fun _ _ => .error "no matching signatures"

/-- The `DELETE` review of `web`. -/
def deleteWeb : Review :=
  ⟨⟨some ⟨"uid", { Version := "v1", Kind := "Pod" }, "default", "web", admv1.Delete, .error "no object"⟩⟩,
    noSignatures⟩

/-- The `DELETE` of `web` after its `CREATE` leaves its entry: the query lists nothing. -/
theorem registered_pod_entry_kept_deleteWeb :
    ∃ s₁ s₂, createPodEntry demoLib demoConfig listEntryServer noSignatures [] webPod = some (s₁, none) ∧
      runRegistrar demoLib demoConfig listEntryServer s₁ [deleteWeb] = some s₂ ∧
      ∃ e ∈ id s₂, e.ParentId = nodeID demoLib demoConfig ∧
        e.SpiffeId = makeID demoLib demoConfig "/ns/%s/sa/%s" ["default", "default"] ∧ ∃ subject,
        SameSelectors e.Selectors
          [namespaceSelector webPod.Namespace, podNameSelector webPod.Name, subjectSelector subject] :=
  ⟨_, _, rfl, rfl, @registered_pod_entry_kept _ demoLib demoConfig listEntryServer id
    listEntryServer_exact noSignatures [] _ _ webPod _ rfl rfl [deleteWeb] rfl⟩

/-! ### The one panic -/

/-- The registrar's derivation panics exactly on an empty list. -/
theorem getSubjectImage_eq_none_iff (verified : List SignedPayload) :
    getSubjectImage verified = none ↔ verified = [] := by
  constructor
  · intro h
    by_contra hne
    exact Option.ne_none_iff_isSome.2 (subjectImageOf_isSome hne) h
  · rintro rfl
    rfl

section Panics

variable {σ : Type} {lib : RegistrarLib} {c : ControllerConfig} {E : EntryClient σ}

/-- `createPodEntry` panics exactly for a pod with a SPIFFE ID while the payload fetch returns
an empty, non-nil list. -/
theorem createPodEntry_eq_none_iff {verify : PayloadVerify} {s : σ} {pod : Pod} :
    createPodEntry lib c E verify s pod = none ↔
      (podSpiffeID lib c pod).isSome ∧ getSignaturePayload lib verify signedImage = .ok (some []) := by
  unfold createPodEntry
  rcases podSpiffeID lib c pod with _ | spiffeID
  · simp
  · simp only [Option.map_eq_none', Option.isSome_some, true_and]
    rcases getSignaturePayload lib verify signedImage with _ | _ | verified <;>
      simp [getselectorOfSignedImage, selectorOfSignedImageOf, getSubjectImage_eq_none_iff]

/-- `reviewAdmission` panics exactly in a `createPodEntry` that panics. -/
theorem reviewAdmission_eq_none_iff {verify : PayloadVerify} {s : σ} {req : AdmissionRequest} :
    reviewAdmission lib c E verify s req = none ↔
      req.Namespace ∉ c.DisabledNamespaces ∧ req.Kind = { Version := "v1", Kind := "Pod" } ∧
        req.Operation = admv1.Create ∧ ∃ pod, req.Object = .ok pod ∧ (podSpiffeID lib c pod).isSome ∧
          getSignaturePayload lib verify signedImage = .ok (some []) := by
  unfold reviewAdmission
  by_cases hdis : req.Namespace ∈ c.DisabledNamespaces
  · simp [hdis]
  by_cases hkind : req.Kind = { Version := "v1", Kind := "Pod" }
  · rw [if_neg hdis, if_neg (not_not.2 hkind)]
    split_ifs with hcreate hdelete
    · rcases req.Object with err | pod <;> simp [hdis, hkind, hcreate, createPodEntry_eq_none_iff]
    all_goals simp [hcreate]
  · simp [hdis, hkind]

end Panics

/-- **The one panic of a review.**  `ReviewAdmission` panics exactly on a review without a
request, and on a `CREATE` of a `v1` `Pod` outside the disabled namespaces whose object decodes
into a pod with a SPIFFE ID, while the fetch of the fixed image's signatures returns an empty,
non-nil list: `getSubjectImage` then reads the first element of an empty slice. -/
theorem ReviewAdmission_eq_none_iff {σ : Type} {lib : RegistrarLib} {c : ControllerConfig}
    {E : EntryClient σ} {verify : PayloadVerify} {s : σ} {ar : AdmissionReview} :
    ReviewAdmission lib c E verify s ar = none ↔ ar.Request = none ∨ ∃ req, ar.Request = some req ∧
      req.Namespace ∉ c.DisabledNamespaces ∧ req.Kind = { Version := "v1", Kind := "Pod" } ∧
        req.Operation = admv1.Create ∧ ∃ pod, req.Object = .ok pod ∧ (podSpiffeID lib c pod).isSome ∧
          getSignaturePayload lib verify signedImage = .ok (some []) := by
  unfold ReviewAdmission
  rcases ar.Request with _ | req
  · simp only [Option.none_bind, true_or]
  · simp only [Option.some_bind, Option.map_eq_none', reviewAdmission_eq_none_iff, reduceCtorEq,
      false_or, Option.some.injEq, exists_eq_left']

end Registrar

end Sigstore
