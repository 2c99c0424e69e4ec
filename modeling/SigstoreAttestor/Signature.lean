import SigstoreAttestor.Json

/-!
# Signatures and what the engine reads from them

An `oci.Signature` is read through three accessors, each of which may fail: `Payload()`
(the signed JSON document), `Cert()` (the Fulcio certificate, possibly absent) and
`Bundle()` (the Rekor bundle, possibly absent).  The engine turns a signature into a
*subject* — the certificate's identity when there is a certificate, else the `subject`
entry of the payload's `optional` map — and, from the bundle, the signature content, the
log ID and the integrated time.

A certificate is kept as the two subject-alternative-name lists `certSubject` reads; x509
parsing leaves such a list nil exactly when it is empty, so the lists are plain lists.
Every error of `getSignatureSubject` and `getBundleSignatureContent` reaches only the
logger, so both return `none` on error.

## Main definitions

* `Certificate`, `Bundle`, `Signature` — the data read from a signature.
* `SimpleContainerImage`, `BundleBody` — the Go types the payload and the bundle body are
  decoded into.
* `certSubject`, `getSignatureSubject`, `getBundleSignatureContent` — the readers.
* `SelectorsFromSignatures`, `selectorsToString` — a signature's selectors and their text.

## Main results

* `getSignatureSubject_eq_some` — the subject is the certificate's identity when there is a
  certificate and the payload's `optional.subject` string otherwise, provided the payload
  decodes and the certificate can be read.
* `getSignatureSubject_number_out_of_range` — a payload whose `optional` map holds a number
  beyond `float64`'s range derives no subject.
-/

namespace Sigstore

/-! ### Signature data -/

/-- An x509 certificate, as far as `certSubject` reads it. -/
structure Certificate where
  /-- The email subject alternative names. -/
  EmailAddresses : List String
  /-- The URI subject alternative names, each as `(*url.URL).String()` prints it. -/
  URIs : List String
  deriving Repr, DecidableEq

/-- The `Payload` of a Rekor bundle, with the fields the engine reads. -/
structure RekorPayload where
  /-- The log entry's body: any JSON value, normally a base64 string. -/
  Body : GoValue
  /-- When the entry was integrated, in Unix seconds. -/
  IntegratedTime : ℤ
  /-- The log's ID. -/
  LogID : String

/-- A Rekor bundle (`oci.Bundle`). -/
structure Bundle where
  /-- The bundle's payload. -/
  Payload : RekorPayload

/-- A non-nil `oci.Signature`, by what its three accessors return. -/
structure Signature where
  /-- `Payload()`. -/
  Payload : Except String Bytes
  /-- `Cert()`: `none` for a nil certificate. -/
  Cert : Except String (Option Certificate)
  /-- `Bundle()`: `none` for a nil bundle. -/
  Bundle : Except String (Option Bundle)

/-! ### The Go types decoded into -/

/-- `payload.Identity`. -/
def Identity : GoType := .struct [("docker-reference", .string)]

/-- `payload.Image`. -/
def Image : GoType := .struct [("docker-manifest-digest", .string)]

/-- `payload.Critical`. -/
def Critical : GoType := .struct [("identity", Identity), ("image", Image), ("type", .string)]

/-- `payload.SimpleContainerImage`: its `Optional` is a `map[string]interface{}`. -/
def SimpleContainerImage : GoType := .struct [("critical", Critical), ("optional", .map .any)]

/-- `BundleSignature`. -/
def BundleSignature : GoType :=
  .struct [("content", .string), ("format", .string), ("publicKey", .map .string)]

/-- `BundleSpec`. -/
def BundleSpec : GoType := .struct [("data", .map (.map .string)), ("signature", BundleSignature)]

/-- `BundleBody`. -/
def BundleBody : GoType := .struct [("apiVersion", .string), ("kind", .string), ("spec", BundleSpec)]

/-! ### Subjects -/

/-- The regular expression `^\/*(?P<email>.*)` replaced by `$email`: the leading slashes go. -/
def stripLeadingSlashes (s : String) : String := ⟨s.data.dropWhile (· = '/')⟩

/-- `certSubject`: the first email address, else the first URI without its leading slashes,
else the empty string. -/
def certSubject : Option Certificate → String
  | none => ""
  | some c =>
    match c.EmailAddresses, c.URIs with
    | e :: _, _ => e
    | [], u :: _ => stripLeadingSlashes u
    | [], [] => ""

/-- The subject a decoded `SimpleContainerImage` carries: `ss.Optional["subject"]` when it
is a string, else the empty string. -/
def payloadSubject (ss : GoValue) : String :=
  match (ss.field 1).index "subject" with
  | some (.string s) => s
  | _ => ""

/-- `getSignatureSubject`: the certificate's subject overrides the payload's; `none` when the
signature is nil, the payload cannot be read or decoded, or the certificate cannot be read. -/
def getSignatureSubject : Option Signature → Option String
  | none => none
  | some signature => do
    let pl ← signature.Payload.toOption
    let ss ← unmarshal SimpleContainerImage pl
    let cert ← signature.Cert.toOption
    pure (if cert.isSome then certSubject cert else payloadSubject ss)

theorem except_toOption_eq_some {ε α : Type} {e : Except ε α} {a : α} :
    e.toOption = some a ↔ e = .ok a := by
  cases e <;> simp [Except.toOption]

/-- The subject is derived exactly when the payload can be read and decodes and the
certificate can be read. -/
theorem getSignatureSubject_eq_some {signature : Signature} {subject : String} :
    getSignatureSubject (some signature) = some subject ↔
      ∃ pl ss cert, signature.Payload = .ok pl ∧ unmarshal SimpleContainerImage pl = some ss ∧
        signature.Cert = .ok cert ∧
        subject = (if cert.isSome then certSubject cert else payloadSubject ss) := by
  simp only [getSignatureSubject, Option.bind_eq_bind, Option.bind_eq_some, pure, Option.some.injEq,
    except_toOption_eq_some]
  constructor
  · rintro ⟨pl, hp, ss, hs, cert, hc, rfl⟩
    exact ⟨pl, ss, cert, hp, hs, hc, rfl⟩
  · rintro ⟨pl, ss, cert, hp, hs, hc, rfl⟩
    exact ⟨pl, hp, ss, hs, cert, hc, rfl⟩

/-- A payload whose `optional` map holds a number beyond `float64`'s range does not decode,
so no subject is derived, the certificate's neither. -/
theorem getSignatureSubject_number_out_of_range {signature : Signature}
    {ms ms' : List (String × Json)} {k n : String}
    (hp : signature.Payload = .ok (some (.object ms))) (hopt : ("optional", .object ms') ∈ ms)
    (hn : (k, .number n) ∈ ms') (hr : float64InRange n = false) :
    getSignatureSubject (some signature) = none := by
  have hmap : ∀ v, decode (.map .any) (.object ms') v = none := fun v => by
    show (decodeEntries .any ms' v.entries).map GoValue.map = none
    rw [@decodeEntries_eq_none .any k (.number n) (fun _ => convertNumber_of_not_inRange hr) ms' _ hn,
      Option.map_none']
  have hss : unmarshal SimpleContainerImage (some (.object ms)) = none := by
    show (decodeFields _ ms _).map GoValue.struct = none
    rw [@decodeFields_eq_none [("critical", Critical), ("optional", .map .any)] "optional" _ 1 _ rfl
      hmap ms _ hopt, Option.map_none']
  simp [getSignatureSubject, hp, Except.toOption, hss]

theorem getSignatureSubject_number_out_of_range_certified :
    getSignatureSubject (some ⟨.ok (some (.object [("optional", .object [("n", .number "1e999")])])),
      .ok (some ⟨["spirex@example.com"], []⟩), .ok none⟩) = none :=
  @getSignatureSubject_number_out_of_range _ _ [("n", .number "1e999")] "n" "1e999" rfl
    (List.mem_singleton_self _) (List.mem_singleton_self _) (by decide!)

/-! ### Bundle content -/

/-- The `Spec.Signature.Content` of a decoded `BundleBody`. -/
def bundleContent (bundlebody : GoValue) : String :=
  (((bundlebody.field 2).field 1).field 0).str

/-- `getBundleSignatureContent`: the body must be a string, base64-decode (`decodeString`,
`base64.StdEncoding.DecodeString`) to a `BundleBody`, and carry a non-empty content;
`none` otherwise. -/
def getBundleSignatureContent (decodeString : String → Option Bytes) : Option Bundle → Option String
  | none => none
  | some bundle =>
    match bundle.Payload.Body with
    | .string body64 => do
      let body ← decodeString body64
      let bundlebody ← unmarshal BundleBody body
      if bundleContent bundlebody = "" then none else some (bundleContent bundlebody)
    | _ => none

/-! ### Selectors -/

/-- `SelectorsFromSignatures`: what one signature contributes; the zero value is an unverified
signature. -/
structure SelectorsFromSignatures where
  /-- The signer's identity. -/
  Subject : String := ""
  /-- The signature content recorded in the transparency log. -/
  Content : String := ""
  /-- The transparency log's ID. -/
  LogID : String := ""
  /-- The integrated time, in decimal. -/
  IntegratedTime : String := ""
  /-- Whether a subject was found and allowed. -/
  Verified : Bool := false
  deriving Repr, DecidableEq

/-- `selectorsToString`: one `containerID`-scoped selector per non-empty field. -/
def selectorsToString (selectors : SelectorsFromSignatures) (containerID : String) : List String :=
  (if selectors.Subject ≠ "" then [containerID ++ ":image-signature-subject:" ++ selectors.Subject] else []) ++
  (if selectors.Content ≠ "" then [containerID ++ ":image-signature-content:" ++ selectors.Content] else []) ++
  (if selectors.LogID ≠ "" then [containerID ++ ":image-signature-logid:" ++ selectors.LogID] else []) ++
  (if selectors.IntegratedTime ≠ "" then
    [containerID ++ ":image-signature-integrated-time:" ++ selectors.IntegratedTime] else [])

/-- A signature with a subject renders its subject selector. -/
theorem subject_mem_selectorsToString {selectors : SelectorsFromSignatures}
    (h : selectors.Subject ≠ "") (containerID : String) :
    containerID ++ ":image-signature-subject:" ++ selectors.Subject ∈
      selectorsToString selectors containerID := by
  simp [selectorsToString, h]

end Sigstore
