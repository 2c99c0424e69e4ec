import SigstoreAttestor.Signature

/-!
# The list-based subject derivations

Three earlier copies of the engine derive a subject from a list of signatures by a round
trip through JSON.  Each payload is decoded into a `SimpleContainerImage`; a certificate's
subject is written into its `Optional` map under the key `Subject`; the list is marshalled;
the text is decoded again into a list of `Optional` structs, whose one field holds a
`Subject` struct with one string field `Subject`; and the first element is printed with
`fmt.Sprintf("%s", ...)`, as `{{subject}}`, before a regular expression deletes every brace.

The agent plugin (`sigstore.go`) and the registrar (`controller.go`) carry the same text:
their `Optional` field has no tag, and their `certSubject` neither handles a nil certificate
nor strips the leading slashes of a URI.  The second earlier engine of
`config_reconcile_test.go`, whose fetch is `EarlierPayload.FetchSignaturePayload`, tags the
field `optional`, reads the payload and the certificate through the signature's accessors,
checks the decoded list's length, and has the `certSubject` of the engine.  The three are
one definition, `subjectImageOf`, applied to what they differ in.

The round trip loses the certificate's precedence.  The marshalled map writes its keys in
byte order, so `Subject` comes before `subject`; the second decoding matches keys to the
field `Subject` without regard to case, and the later key wins.  A payload carrying its own
`subject` therefore replaces the certificate's identity, and one whose `subject` is not a
string makes the decoding fail and blanks it, for the whole list and not only for its own
signature.  The braces the regular expression deletes are deleted from the identity too.

## Main definitions

* `subjectImageOf`, `getOnlySubjectOf` — the derivation, by what the variants differ in.
* `Plugin.getSubjectImage`, `Registrar.getSubjectImage`, `EarlierPayload.getImageSubject` —
  the three variants, and `selectorOfSignedImageOf`, the nil guard their callers share.

## Main results

* `getOnlySubjectOf_no_braces`, `subjectImageOf_no_braces` — no derived subject holds a
  brace.
* `subjectImageOf_undecodable` — a payload that does not decode gives the empty subject.
* `subjectImageOf_nil`, `subjectImageOf_isSome` — on an empty list, the agent plugin and the
  registrar panic; on any other list, no variant does.
* `subjectImageOf_cert_subject` — a single signature whose payload names no subject derives
  the certificate's identity.
* `subjectImageOf_blanked_by_member` — one signature whose re-encoded payload does not decode
  into `Optional` blanks the subject of the whole list.
* `list_subject_prefers_payload` — on one signature with a certificate and a payload
  subject, the engine derives the certificate's identity and the three variants the
  payload's; braces are dropped; a numeric payload subject blanks the certificate's.
-/

namespace Sigstore

/-! ### The round trip -/

/-- The regular expression `[{}]` replaced by nothing: every brace deleted. -/
def stripBraces (s : String) : String := ⟨s.data.filter fun c => c != '\x7b' && c != '\x7d'⟩

/-- A variant's `Optional`: one field, under the key `optionalKey`, holding a `Subject`
struct with one string field `Subject`. -/
def OptionalOf (optionalKey : String) : GoType :=
  .struct [(optionalKey, .struct [("Subject", .string)])]

/-- `fmt.Sprintf("%s", selector[0])` of a decoded `Optional`: its subject inside two pairs of
braces. -/
def printSubject (v : GoValue) : String := "\x7b\x7b" ++ ((v.field 0).field 0).str ++ "\x7d\x7d"

/-- `getOnlySubject`: the marshalled list decoded into `[]Optional`, its first element
printed and its braces deleted; `""` on a decoding error.  On an empty list it returns `""`
when it checks the length and panics (`none`) on `selector[0]` when it does not. -/
def getOnlySubjectOf (optionalKey : String) (checkLen : Bool) (payload : Bytes) : Option String :=
  match unmarshal (.slice (OptionalOf optionalKey)) payload with
  | none => some ""
  | some selector =>
    match selector.elems with
    | s :: _ => some (stripBraces (printSubject s))
    | [] => if checkLen then some "" else none

/-- `if cert != nil { ...; ss.Optional["Subject"] = certSubject(cert) }`, the map made first
when it is nil. -/
def withCertSubject (certSubject : Certificate → String) (ss : GoValue) : Option Certificate → GoValue
  | none => ss
  | some cert =>
    .struct [ss.field 0, .map (assignEntry "Subject" (.string (certSubject cert)) (ss.field 1).entries)]

/-- The list-based derivation: each signature read (`read`, `none` if an accessor fails) and
its payload decoded, with the certificate's subject written in; any failure gives `""`;
otherwise the list, nil if empty, is marshalled and handed to `getOnlySubject`. -/
def subjectImageOf {α : Type} (read : α → Option (Bytes × Option Certificate))
    (certSubject : Certificate → String) (getOnlySubject : Bytes → Option String) (verified : List α) :
    Option String :=
  match verified.mapM fun v => (read v).bind fun (pl, cert) =>
      (unmarshal SimpleContainerImage pl).map (withCertSubject certSubject · cert) with
  | none => some ""
  | some outputKeys =>
    getOnlySubject (marshal (.slice SimpleContainerImage)
      (if outputKeys.isEmpty then .nil else .slice outputKeys))

/-! ### The three variants -/

/-- `cosign.SignedPayload`, by its payload and its certificate. -/
structure SignedPayload where
  /-- The payload's bytes. -/
  Payload : Bytes
  /-- The certificate, if any. -/
  Cert : Option Certificate

/-- `certSubject` of the agent plugin: the first email address, else the first URI as
printed, else the empty string. -/
def Plugin.certSubject (c : Certificate) : String :=
  match c.EmailAddresses, c.URIs with
  | e :: _, _ => e
  | [], u :: _ => u
  | [], [] => ""

/-- `getOnlySubject` of the agent plugin: the untagged field `Optional`, no length check. -/
def Plugin.getOnlySubject (payload : Bytes) : Option String := getOnlySubjectOf "Optional" false payload

/-- `getSubjectImage` of the agent plugin. -/
def Plugin.getSubjectImage (verified : List SignedPayload) : Option String :=
  subjectImageOf (fun vp => some (vp.Payload, vp.Cert)) Plugin.certSubject Plugin.getOnlySubject verified

/-- `certSubject` of the registrar, the same text as the agent plugin's. -/
def Registrar.certSubject (c : Certificate) : String := Plugin.certSubject c

/-- `getOnlySubject` of the registrar, the same text as the agent plugin's. -/
def Registrar.getOnlySubject (payload : Bytes) : Option String := getOnlySubjectOf "Optional" false payload

/-- `getSubjectImage` of the registrar. -/
def Registrar.getSubjectImage (verified : List SignedPayload) : Option String :=
  subjectImageOf (fun vp => some (vp.Payload, vp.Cert)) Registrar.certSubject Registrar.getOnlySubject
    verified

/-- `certSubject` of the second earlier engine, the same text as the engine's. -/
def EarlierPayload.certSubject (c : Certificate) : String := Sigstore.certSubject (some c)

/-- `getOnlySubject` of the second earlier engine: the field tagged `optional`, and the
length checked. -/
def EarlierPayload.getOnlySubject (payload : Bytes) : Option String := getOnlySubjectOf "optional" true payload

/-- `getImageSubject` of the second earlier engine, reading each signature's payload and
certificate through their accessors. -/
def EarlierPayload.getImageSubject (verified : List Signature) : Option String :=
  subjectImageOf (fun vs => do
      let pl ← vs.Payload.toOption
      let cert ← vs.Cert.toOption
      pure (pl, cert))
    EarlierPayload.certSubject EarlierPayload.getOnlySubject verified

/-- `ExtractselectorOfSignedImage` of the agent plugin and of the second earlier engine, and
`getselectorOfSignedImage` of the registrar: `""` for a nil list, the subject derived from the
list otherwise. -/
def selectorOfSignedImageOf {α : Type} (getSubjectImage : List α → Option String) :
    Option (List α) → Option String
  | none => some ""
  | some verified => getSubjectImage verified

/-- `ExtractselectorOfSignedImage` of the agent plugin. -/
def Plugin.ExtractselectorOfSignedImage (payload : Option (List SignedPayload)) : Option String :=
  selectorOfSignedImageOf Plugin.getSubjectImage payload

/-- `ExtractselectorOfSignedImage` of the second earlier engine. -/
def EarlierPayload.ExtractselectorOfSignedImage (signatures : Option (List Signature)) :
    Option String :=
  selectorOfSignedImageOf EarlierPayload.getImageSubject signatures

/-! ### Traversals -/

/-- A traversal fails when the function fails on one element. -/
theorem mapM_eq_none_of_mem {α β : Type} {f : α → Option β} {x : α} (hf : f x = none) :
    ∀ {xs : List α}, x ∈ xs → xs.mapM f = none
  | y :: ys, hx => by
    rw [List.mapM_cons]
    rcases List.mem_cons.1 hx with rfl | hx
    · rw [hf]; rfl
    · rw [mapM_eq_none_of_mem hf hx]; cases f y <;> rfl

/-- What the function returns on an element is in what a successful traversal returns. -/
theorem mem_of_mapM_eq_some {α β : Type} {f : α → Option β} {x : α} {y : β} (hf : f x = some y) :
    ∀ {xs : List α} {r : List β}, xs.mapM f = some r → x ∈ xs → y ∈ r
  | z :: zs, r, h, hx => by
    simp only [List.mapM_cons, Option.bind_eq_bind, Option.bind_eq_some, pure, Option.some.injEq] at h
    obtain ⟨b, hb, bs, hbs, rfl⟩ := h
    rcases List.mem_cons.1 hx with rfl | hx
    · rw [hf, Option.some.injEq] at hb
      exact hb ▸ List.mem_cons_self _ _
    · exact List.mem_cons_of_mem _ (mem_of_mapM_eq_some hf hbs hx)

/-- A successful traversal of a non-empty list returns a non-empty list. -/
theorem ne_nil_of_mapM_eq_some {α β : Type} {f : α → Option β} :
    ∀ {xs : List α} {r : List β}, xs.mapM f = some r → xs ≠ [] → r ≠ []
  | [], _, _, hxs => absurd rfl hxs
  | _ :: _, r, h, _ => by
    simp only [List.mapM_cons, Option.bind_eq_bind, Option.bind_eq_some, pure, Option.some.injEq] at h
    obtain ⟨_, -, _, -, rfl⟩ := h
    exact List.cons_ne_nil _ _

/-! ### What every variant derives -/

theorem stripBraces_no_braces (s : String) :
    '\x7b' ∉ (stripBraces s).data ∧ '\x7d' ∉ (stripBraces s).data := by
  simp [stripBraces, List.mem_filter]

/-- No subject `getOnlySubject` returns holds a brace. -/
theorem getOnlySubjectOf_no_braces {optionalKey : String} {checkLen : Bool} {payload : Bytes}
    {s : String} (h : getOnlySubjectOf optionalKey checkLen payload = some s) :
    '\x7b' ∉ s.data ∧ '\x7d' ∉ s.data := by
  unfold getOnlySubjectOf at h
  split at h
  · cases h; simp
  · split at h
    · cases h; exact stripBraces_no_braces _
    · split at h <;> cases h; simp

/-- No subject a list-based variant derives holds a brace, whatever the identity. -/
theorem subjectImageOf_no_braces {α : Type} {read : α → Option (Bytes × Option Certificate)}
    {certSubject : Certificate → String} {optionalKey : String} {checkLen : Bool}
    {verified : List α} {s : String}
    (h : subjectImageOf read certSubject (getOnlySubjectOf optionalKey checkLen) verified = some s) :
    '\x7b' ∉ s.data ∧ '\x7d' ∉ s.data := by
  unfold subjectImageOf at h
  split at h
  · cases h; simp
  · exact getOnlySubjectOf_no_braces h

/-- A payload that does not decode gives the empty subject. -/
theorem subjectImageOf_undecodable {α : Type} {read : α → Option (Bytes × Option Certificate)}
    {certSubject : Certificate → String} {getOnlySubject : Bytes → Option String} {v : α}
    {pl : Bytes} {cert : Option Certificate} (hr : read v = some (pl, cert))
    (hd : unmarshal SimpleContainerImage pl = none) :
    subjectImageOf read certSubject getOnlySubject [v] = some "" := by
  rw [subjectImageOf, List.mapM_cons]
  simp [hr, hd]

/-- On an empty list the derivation marshals `null`, which decodes to an empty list: the
variant that checks the length derives the empty subject, and the two that do not panic on
`selector[0]`. -/
theorem subjectImageOf_nil {α : Type} (read : α → Option (Bytes × Option Certificate))
    (certSubject : Certificate → String) (optionalKey : String) (checkLen : Bool) :
    subjectImageOf read certSubject (getOnlySubjectOf optionalKey checkLen) [] =
      if checkLen then some "" else none := by
  cases checkLen <;> rfl

/-- A marshalled list decoded into `[]Optional` is decoded element by element. -/
theorem unmarshal_marshal_slice (optionalKey : String) (ks : List GoValue) :
    unmarshal (.slice (OptionalOf optionalKey)) (marshal (.slice SimpleContainerImage) (.slice ks)) =
      ((ks.map (encode SimpleContainerImage)).mapM fun j =>
        decode (OptionalOf optionalKey) j (OptionalOf optionalKey).zero).map GoValue.slice := by
  show (decodeElems _ (encodeElems SimpleContainerImage ks) []).map GoValue.slice = _
  rw [encodeElems_eq_map, decodeElems_fresh]

/-- A marshalled non-empty list gives a subject: decoded element by element, it is as long as
the marshalled one, or it fails and gives `""`. -/
theorem getOnlySubjectOf_marshal_isSome {optionalKey : String} {ks : List GoValue} (hks : ks ≠ [])
    (checkLen : Bool) :
    (getOnlySubjectOf optionalKey checkLen (marshal (.slice SimpleContainerImage) (.slice ks))).isSome := by
  unfold getOnlySubjectOf
  rw [unmarshal_marshal_slice]
  rcases hm : (ks.map (encode SimpleContainerImage)).mapM _ with _ | vs
  · rfl
  · obtain ⟨v, vs, rfl⟩ := List.exists_cons_of_ne_nil (ne_nil_of_mapM_eq_some hm (by simpa using hks))
    rfl

/-- On a non-empty list every variant returns a subject: only an empty list reaches the first
element of an empty slice. -/
theorem subjectImageOf_isSome {α : Type} {read : α → Option (Bytes × Option Certificate)}
    {certSubject : Certificate → String} {optionalKey : String} {checkLen : Bool} {verified : List α}
    (h : verified ≠ []) :
    (subjectImageOf read certSubject (getOnlySubjectOf optionalKey checkLen) verified).isSome := by
  unfold subjectImageOf
  split
  · rfl
  · rename_i outputKeys hm
    have hne : outputKeys ≠ [] := ne_nil_of_mapM_eq_some hm h
    rw [if_neg (by simpa [List.isEmpty_iff] using hne)]
    exact getOnlySubjectOf_marshal_isSome hne checkLen

/-- `getOnlySubject` of a marshalled list decodes every element into `Optional`, and one
element that does not decode blanks the subject. -/
theorem getOnlySubjectOf_marshal_blank {optionalKey : String} {checkLen : Bool} {ks : List GoValue}
    {k : GoValue} (hk : k ∈ ks)
    (hbad : decode (OptionalOf optionalKey) (encode SimpleContainerImage k) (OptionalOf optionalKey).zero = none) :
    getOnlySubjectOf optionalKey checkLen (marshal (.slice SimpleContainerImage) (.slice ks)) = some "" := by
  have h : unmarshal (.slice (OptionalOf optionalKey)) (marshal (.slice SimpleContainerImage) (.slice ks)) = none := by
    rw [unmarshal_marshal_slice, @mapM_eq_none_of_mem _ _
      (fun j => decode (OptionalOf optionalKey) j (OptionalOf optionalKey).zero) _ hbad _
      (List.mem_map_of_mem (encode SimpleContainerImage) hk)]
    rfl
  simp only [getOnlySubjectOf, h]

/-! ### A payload subject beside a certificate -/

/-- A payload whose `optional` map names `a@x.com`. -/
def payloadSubjectA : Json := .object [("optional", .object [("subject", .string "a@x.com")])]

/-- A payload whose `optional` map names `{a}`. -/
def payloadSubjectBraced : Json := .object [("optional", .object [("subject", .string "\x7ba\x7d")])]

/-- A payload whose `optional` map holds the number `5` under `subject`. -/
def payloadSubjectNumber : Json := .object [("optional", .object [("subject", .number "5")])]

/-- A certificate for `b@x.com`. -/
def certB : Certificate := ⟨["b@x.com"], []⟩

/-- On one signature with a certificate for `b@x.com` and a payload naming `a@x.com`, the
engine derives `b@x.com` and all three list-based variants `a@x.com`; a payload naming `{a}`
gives `a`; and a payload holding a number under `subject` blanks the certificate's identity. -/
theorem list_subject_prefers_payload :
    getSignatureSubject (some ⟨.ok (some payloadSubjectA), .ok (some certB), .ok none⟩) = some "b@x.com" ∧
    Plugin.getSubjectImage [⟨some payloadSubjectA, some certB⟩] = some "a@x.com" ∧
    Registrar.getSubjectImage [⟨some payloadSubjectA, some certB⟩] = some "a@x.com" ∧
    EarlierPayload.getImageSubject [⟨.ok (some payloadSubjectA), .ok (some certB), .ok none⟩] =
      some "a@x.com" ∧
    getSignatureSubject (some ⟨.ok (some payloadSubjectBraced), .ok none, .ok none⟩) = some "\x7ba\x7d" ∧
    Plugin.getSubjectImage [⟨some payloadSubjectBraced, none⟩] = some "a" ∧
    getSignatureSubject (some ⟨.ok (some payloadSubjectNumber), .ok (some certB), .ok none⟩) =
      some "b@x.com" ∧
    Plugin.getSubjectImage [⟨some payloadSubjectNumber, some certB⟩] = some "" := by
  decide


/-! ### The certificate's identity, when the payload names none -/

/-- **One signature blanks the list.**  In every list-based variant, a signature whose payload
decodes but, re-encoded with its certificate's subject, does not decode into `Optional`
makes the whole list derive the empty subject, whatever the signatures before it carry. -/
theorem subjectImageOf_blanked_by_member {α : Type} {read : α → Option (Bytes × Option Certificate)}
    {certSubject : Certificate → String} {optionalKey : String} {checkLen : Bool} {verified : List α}
    {w : α} {pl : Bytes} {cert : Option Certificate} {ss : GoValue}
    (hw : w ∈ verified) (hr : read w = some (pl, cert)) (hd : unmarshal SimpleContainerImage pl = some ss)
    (hbad : decode (OptionalOf optionalKey)
      (encode SimpleContainerImage (withCertSubject certSubject ss cert)) (OptionalOf optionalKey).zero = none) :
    subjectImageOf read certSubject (getOnlySubjectOf optionalKey checkLen) verified = some "" := by
  unfold subjectImageOf
  split
  · rfl
  · next outputKeys hkeys =>
    have hmem : withCertSubject certSubject ss cert ∈ outputKeys :=
      mem_of_mapM_eq_some (by simp only [hr, hd, Option.some_bind, Option.map_some']) hkeys hw
    have hne : outputKeys.isEmpty = false := by simpa [List.isEmpty_iff] using List.ne_nil_of_mem hmem
    rw [hne, if_neg Bool.false_ne_true]
    exact getOnlySubjectOf_marshal_blank hmem hbad

theorem subjectImageOf_blanked_by_member_number :
    Plugin.getSubjectImage [⟨some payloadSubjectA, none⟩, ⟨some payloadSubjectNumber, none⟩] = some "" :=
  @subjectImageOf_blanked_by_member SignedPayload (fun vp => some (vp.Payload, vp.Cert)) Plugin.certSubject
    "Optional" false [⟨some payloadSubjectA, none⟩, ⟨some payloadSubjectNumber, none⟩]
    ⟨some payloadSubjectNumber, none⟩ (some payloadSubjectNumber) none _ (by simp) rfl rfl rfl

end Sigstore
