import Mathlib.Algebra.Group.Nat.Basic
import Mathlib.Data.List.Sort

/-!
# JSON documents and Go's `encoding/json`

Every subject the engine derives passes through `encoding/json`: the signature payload is
decoded into `payload.SimpleContainerImage`, the transparency-log body into `BundleBody`,
and the earlier list-based variants even re-encode the decoded payloads and decode them
again into a struct of their own.  What they return therefore depends on how Go's decoder
matches object keys to struct fields, and on the order in which Go's encoder writes map
keys, so both are modelled here rather than taken as opaque.

A document is kept as its text spells it: object members in order, duplicates included,
numbers as their literal; it is well formed, so each literal is a JSON number.  A Go value
is decoded *into* a current value, as Go does: a struct field or a non-nil map that an
object reaches is merged into, not replaced, and a key that occurs twice is decoded twice,
the later one winning.  Keys meet struct fields first exactly and then up to Go's case
folding.  A number decoded into an `interface{}` becomes a `float64`, and one beyond
`float64`'s range is an `UnmarshalTypeError` (`convertNumber`); within the range the model
keeps the literal, since no number is ever read.

Two simplifications, both invisible to this program: `json.Unmarshal` goes on decoding
after a type mismatch and returns the first one at the end, while `decode` stops at it —
every caller here discards the value when an error is returned; and a number is encoded
again as its literal, not as Go formats the `float64`, which changes no key and no string.

## Main definitions

* `Json`, `GoType`, `GoValue` — documents, the Go types decoded into, and their values.
* `numberLiteral?`, `float64InRange`, `convertNumber` — a number decoded into an
  `interface{}`, and the range `strconv.ParseFloat` accepts.
* `decode t j v` — `d.value`: decode `j` into the current value `v` of type `t`.
* `unmarshal t b` — `json.Unmarshal(b, &v)` for a fresh `v` of type `t`.
* `encode t v`, `marshal` — `json.Marshal`, map keys in sorted order.
* `foldName`, `fieldLookup` — the case-insensitive matching of keys to struct fields.

## Main results

* `lookup_assignEntry` — after `m[k] = v`, `m[k]` reads `v`.
* `decodeElems_fresh` — an array decoded into a fresh slice is decoded element by element.
* `decodeEntries_eq_none`, `decodeFields_eq_none` — one member that fails to decode fails the
  whole map or struct.
* `decodeFields_string_field` — an object decoded into a struct of one string field takes the
  value of the keys that fold to the field's name.
-/

namespace Sigstore

/-! ### Documents and values -/

/-- A JSON document as its text spells it. -/
inductive Json where
  /-- `null`. -/
  | null
  /-- `true` or `false`. -/
  | bool (b : Bool)
  /-- A number, by its literal. -/
  | number (literal : String)
  /-- A string. -/
  | string (s : String)
  /-- An array. -/
  | array (elems : List Json)
  /-- An object, members in text order, duplicate keys kept. -/
  | object (members : List (String × Json))
  deriving Repr, Inhabited

/-- A byte string, as `json.Unmarshal` reads it: the document it spells, or `none` when it
spells none (the empty byte string among them). -/
abbrev Bytes := Option Json

/-- The Go types this program decodes into.  A struct lists its fields in declaration
order, each by its JSON key (the tag, or the field name when there is none). -/
inductive GoType where
  /-- `string`. -/
  | string
  /-- `interface{}`. -/
  | any
  /-- `map[string]elem`. -/
  | map (elem : GoType)
  /-- `[]elem`. -/
  | slice (elem : GoType)
  /-- A struct. -/
  | struct (fields : List (String × GoType))
  deriving Repr, Inhabited

/-- A Go value of one of those types. -/
inductive GoValue where
  /-- A nil map, slice or interface. -/
  | nil
  /-- A `bool` held by an interface. -/
  | bool (b : Bool)
  /-- A `float64` held by an interface, by the literal it was decoded from. -/
  | number (literal : String)
  /-- A string. -/
  | string (s : String)
  /-- A non-nil map, one entry per key. -/
  | map (entries : List (String × GoValue))
  /-- A non-nil slice. -/
  | slice (elems : List GoValue)
  /-- A struct, field values in declaration order. -/
  | struct (fields : List GoValue)
  deriving Repr, Inhabited

mutual
/-- The zero value of a type. -/
def GoType.zero : GoType → GoValue
  | .string => .string ""
  | .struct fs => .struct (zeroFields fs)
  | _ => .nil

/-- The zero values of a struct's fields. -/
def zeroFields : List (String × GoType) → List GoValue
  | [] => []
  | (_, t) :: fs => t.zero :: zeroFields fs
end

/-- `m[k] = v` on a non-nil map: the entry under `k` is replaced, or added at the end. -/
def assignEntry {β : Type} (k : String) (v : β) : List (String × β) → List (String × β)
  | [] => [(k, v)]
  | (k', v') :: es => if k' = k then (k, v) :: es else (k', v') :: assignEntry k v es

/-- The value a struct holds in field `i`. -/
def GoValue.field (i : ℕ) : GoValue → GoValue
  | .struct vs => vs.getD i .nil
  | _ => .nil

/-- `m[k]` with the comma-ok form: the entry under `k` of a map, `none` for a nil map. -/
def GoValue.index (k : String) : GoValue → Option GoValue
  | .map es => es.lookup k
  | _ => none

/-- The string a string-typed value holds. -/
def GoValue.str : GoValue → String
  | .string s => s
  | _ => ""

/-- The entries a map value starts from when an object is decoded into it: a nil map is
first made empty. -/
def GoValue.entries : GoValue → List (String × GoValue)
  | .map es => es
  | _ => []

/-- The elements of a slice value. -/
def GoValue.elems : GoValue → List GoValue
  | .slice xs => xs
  | _ => []

/-- The field values of a struct value of type `struct fs`. -/
def GoValue.fieldsOr (fs : List (String × GoType)) : GoValue → List GoValue
  | .struct vs => vs
  | _ => zeroFields fs

@[simp] theorem assignEntry_nil {β : Type} (k : String) (v : β) : assignEntry k v [] = [(k, v)] := rfl

/-- After `m[k] = v`, `m[k]` reads `v`. -/
@[simp] theorem lookup_assignEntry {β : Type} (k : String) (v : β) (es : List (String × β)) :
    (assignEntry k v es).lookup k = some v := by
  induction es with
  | nil => exact List.lookup_cons_self
  | cons e es ih =>
    obtain ⟨k', v'⟩ := e
    by_cases h : k' = k
    · simp [assignEntry, h]
    · simp [assignEntry, h, List.lookup_cons, ih, beq_false_of_ne (Ne.symm h)]

/-- Go's case folding of one character, as far as it bears on ASCII field names: a letter
folds to upper case, and the long s and the Kelvin sign fold with `s` and `k`. -/
def foldChar (c : Char) : Char :=
  if 'a'.toNat ≤ c.toNat ∧ c.toNat ≤ 'z'.toNat then Char.ofNat (c.toNat - 32)
  else if c = 'ſ' then 'S' else if c = 'K' then 'K' else c

/-- `foldName`: two keys match case-insensitively when their foldings agree. -/
def foldName (s : String) : String := ⟨s.data.map foldChar⟩

/-- The first field, counting from `i`, whose JSON key satisfies `p`. -/
def findField (p : String → Bool) : List (String × GoType) → ℕ → Option (ℕ × GoType)
  | [], _ => none
  | (n, t) :: fs, i => if p n then some (i, t) else findField p fs (i + 1)

/-- The field an object key decodes into: the one named exactly by the key, else the first
whose name folds to the key's folding. -/
def fieldLookup (fs : List (String × GoType)) (key : String) : Option (ℕ × GoType) :=
  (findField (· == key) fs 0).orElse fun _ => findField (fun n => foldName n == foldName key) fs 0

/-- The value of a non-empty string of decimal digits; `none` for the empty string or one
holding another character. -/
def digitsValue (cs : List Char) : Option ℕ :=
  if cs = [] then none
  else cs.foldl (fun acc c => acc.bind fun v =>
    if c.isDigit then some (10 * v + (c.toNat - '0'.toNat)) else none) (some 0)

/-- The fraction of a number literal, after its integer part: nothing, or `.` and digits. -/
def fractionDigits : List Char → Option (List Char)
  | [] => some []
  | '.' :: ds => (digitsValue ds).map fun _ => ds
  | _ => none

/-- The exponent of a number literal, after its fraction: nothing, or `e` or `E`, an optional
sign, and digits. -/
def exponentValue : List Char → Option ℤ
  | [] => some 0
  | _ :: '-' :: ds => (digitsValue ds).map fun n => -n
  | _ :: '+' :: ds => (digitsValue ds).map Int.ofNat
  | _ :: ds => (digitsValue ds).map Int.ofNat

/-- A JSON number literal, `-?(0|[1-9][0-9]*)(.[0-9]+)?([eE][+-]?[0-9]+)?`, as the significand
`m` and the exponent `e` of its magnitude `m * 10 ^ e`; `none` for any other text. -/
def numberLiteral? (literal : String) : Option (ℕ × ℤ) :=
  let cs := if literal.data.head? = some '-' then literal.data.tail else literal.data
  let int := cs.takeWhile Char.isDigit
  let rest := cs.dropWhile Char.isDigit
  let frac := rest.takeWhile fun c => c ≠ 'e' ∧ c ≠ 'E'
  let exp := rest.dropWhile fun c => c ≠ 'e' ∧ c ≠ 'E'
  if 1 < int.length ∧ int.head? = some '0' then none
  else do
    let _ ← digitsValue int
    let fd ← fractionDigits frac
    let m ← digitsValue (int ++ fd)
    let e ← exponentValue exp
    return (m, e - fd.length)

/-- The least magnitude `strconv.ParseFloat(s, 64)` rounds to infinity, `2 ^ 1024 - 2 ^ 970`:
halfway from the largest `float64`, `2 ^ 1024 - 2 ^ 971`, to `2 ^ 1024`, the tie rounding to
even, upward.  It is written with shifts, `1 <<< n = 2 ^ n`, which evaluate at once. -/
def float64Overflow : ℕ := (1 <<< 1024) - (1 <<< 970)

/-- Whether `strconv.ParseFloat(s, 64)` returns no error: `s` is a number literal whose
magnitude rounds to a finite `float64`.  A magnitude too small for a `float64` rounds to
zero, which is no error. -/
def float64InRange (literal : String) : Bool :=
  match numberLiteral? literal with
  | none => false
  | some (m, e) =>
    if 0 ≤ e then m * 10 ^ e.toNat < float64Overflow else m < float64Overflow * 10 ^ e.natAbs

example : float64InRange "-1.5e-7" = true ∧ float64InRange "1e999" = false ∧
    float64InRange "01" = false := by
  decide!

/-- `d.convertNumber(s)`: the `float64` `strconv.ParseFloat(s, 64)` returns, kept as its
literal; `none` for the `UnmarshalTypeError` of a literal out of `float64`'s range. -/
def convertNumber (literal : String) : Option GoValue :=
  if float64InRange literal then some (.number literal) else none

/-- A number within `float64`'s range converts to itself. -/
theorem convertNumber_of_inRange {literal : String} (h : float64InRange literal = true) :
    convertNumber literal = some (.number literal) := if_pos h

/-- A number beyond `float64`'s range is a decoding error. -/
theorem convertNumber_of_not_inRange {literal : String} (h : float64InRange literal = false) :
    convertNumber literal = none := if_neg (by simp [h])

mutual
/-- A document decoded into an `interface{}`: objects become maps, the later of two equal
keys winning; `none` if a number in it is out of `float64`'s range. -/
def Json.toAny : Json → Option GoValue
  | .null => some .nil
  | .bool b => some (.bool b)
  | .number n => convertNumber n
  | .string s => some (.string s)
  | .array xs => (anyElems xs).map .slice
  | .object ms => (anyMembers ms []).map .map

/-- The elements of an array decoded into an `interface{}`. -/
def anyElems : List Json → Option (List GoValue)
  | [] => some []
  | x :: xs => x.toAny.bind fun y => (anyElems xs).map (y :: ·)

/-- The members of an object decoded into a `map[string]interface{}`. -/
def anyMembers : List (String × Json) → List (String × GoValue) → Option (List (String × GoValue))
  | [], acc => some acc
  | (k, x) :: ms, acc => x.toAny.bind fun y => anyMembers ms (assignEntry k y acc)
end

mutual
/-- `d.value`: the document `j` decoded into the current value `v` of type `t`, or `none`
on a type mismatch.  `null` zeroes a map, slice or interface and leaves a string or a
struct as it is. -/
def decode : GoType → Json → GoValue → Option GoValue
  | .any, j, _ => j.toAny
  | .string, .string s, _ => some (.string s)
  | .string, .null, v => some v
  | .struct _, .null, v => some v
  | .map _, .null, _ => some .nil
  | .slice _, .null, _ => some .nil
  | .map t, .object ms, v => (decodeEntries t ms v.entries).map .map
  | .slice t, .array xs, v => (decodeElems t xs v.elems).map .slice
  | .struct fs, .object ms, v => (decodeFields fs ms (v.fieldsOr fs)).map .struct
  | _, _, _ => none

/-- An object's members decoded into a map: each value into a fresh element. -/
def decodeEntries (t : GoType) :
    List (String × Json) → List (String × GoValue) → Option (List (String × GoValue))
  | [], acc => some acc
  | (k, x) :: ms, acc => (decode t x t.zero).bind fun y => decodeEntries t ms (assignEntry k y acc)

/-- An array's elements decoded into a slice, element `i` into the old element `i` if there
was one; the slice ends up as long as the array. -/
def decodeElems (t : GoType) : List Json → List GoValue → Option (List GoValue)
  | [], _ => some []
  | x :: xs, old =>
    (decode t x (old.headD t.zero)).bind fun y => (decodeElems t xs old.tail).map (y :: ·)

/-- An object's members decoded into a struct's fields; a key matching no field is skipped. -/
def decodeFields (fs : List (String × GoType)) :
    List (String × Json) → List GoValue → Option (List GoValue)
  | [], cur => some cur
  | (k, x) :: ms, cur =>
    match fieldLookup fs k with
    | none => decodeFields fs ms cur
    | some (i, t) => (decode t x (cur.getD i .nil)).bind fun y => decodeFields fs ms (cur.set i y)
end

/-- `json.Unmarshal(data, &v)` for a fresh `v` of type `t`: `none` when it returns an error. -/
def unmarshal (t : GoType) (data : Bytes) : Option GoValue :=
  data.bind fun j => decode t j t.zero

@[simp] theorem unmarshal_none (t : GoType) : unmarshal t none = none := rfl

@[simp] theorem unmarshal_some (t : GoType) (j : Json) :
    unmarshal t (some j) = decode t j t.zero := rfl

theorem decode_slice_array (t : GoType) (xs : List Json) (v : GoValue) :
    decode (.slice t) (.array xs) v = (decodeElems t xs v.elems).map .slice := rfl

/-- A key that matches a field is decoded into the field's current value. -/
theorem decodeFields_cons_some {fs : List (String × GoType)} {k : String} {x : Json}
    {ms : List (String × Json)} {cur : List GoValue} {i : ℕ} {t : GoType} (h : fieldLookup fs k = some (i, t)) :
    decodeFields fs ((k, x) :: ms) cur =
      (decode t x (cur.getD i .nil)).bind fun y => decodeFields fs ms (cur.set i y) := by
  simp only [decodeFields, h]

/-- A member whose value fails to decode fails the whole map, as Go's saved error does. -/
theorem decodeEntries_eq_none {t : GoType} {k : String} {x : Json} (hx : ∀ v, decode t x v = none) :
    ∀ {ms : List (String × Json)} {acc : List (String × GoValue)}, (k, x) ∈ ms →
      decodeEntries t ms acc = none
  | (k', x') :: ms, acc, hm => by
    rcases List.mem_cons.1 hm with h | hm
    · cases h
      simp only [decodeEntries, hx, Option.none_bind]
    · simp only [decodeEntries]
      cases decode t x' t.zero with
      | none => rfl
      | some y => exact decodeEntries_eq_none hx hm

/-- A member that reaches a field and fails to decode into it fails the whole struct. -/
theorem decodeFields_eq_none {fs : List (String × GoType)} {k : String} {x : Json} {i : ℕ}
    {t : GoType} (hk : fieldLookup fs k = some (i, t)) (hx : ∀ v, decode t x v = none) :
    ∀ {ms : List (String × Json)} {cur : List GoValue}, (k, x) ∈ ms → decodeFields fs ms cur = none
  | (k', x') :: ms, cur, hm => by
    rcases List.mem_cons.1 hm with h | hm
    · cases h
      rw [decodeFields_cons_some hk, hx, Option.none_bind]
    · simp only [decodeFields]
      split
      · exact decodeFields_eq_none hk hx hm
      · cases decode _ x' _ with
        | none => rfl
        | some y => exact decodeFields_eq_none hk hx hm

/-! ### Encoding -/

/-- `strings.Compare(a, b) <= 0`, on the keys' characters: the byte order of their UTF-8
encodings, which is the order of their code points. -/
def keyLE : List Char → List Char → Bool
  | [], _ => true
  | _ :: _, [] => false
  | c :: cs, d :: ds => if c = d then keyLE cs ds else c.toNat < d.toNat

/-- The members of an encoded map, sorted by key as `json.Marshal` writes them. -/
def sortMembers (ms : List (String × Json)) : List (String × Json) :=
  ms.insertionSort fun a b => keyLE a.1.data b.1.data

mutual
/-- An `interface{}`'s dynamic value encoded. -/
def encodeAny : GoValue → Json
  | .nil => .null
  | .bool b => .bool b
  | .number n => .number n
  | .string s => .string s
  | .map es => .object (sortMembers (encodeAnyEntries es))
  | .slice xs => .array (encodeAnyElems xs)
  | .struct _ => .null

/-- A map's entries encoded, in map order. -/
def encodeAnyEntries : List (String × GoValue) → List (String × Json)
  | [] => []
  | (k, v) :: es => (k, encodeAny v) :: encodeAnyEntries es

/-- A slice's elements encoded. -/
def encodeAnyElems : List GoValue → List Json
  | [] => []
  | v :: vs => encodeAny v :: encodeAnyElems vs
end

mutual
/-- `json.Marshal` of a value of type `t`; nil maps, slices and interfaces encode as
`null`. -/
def encode : GoType → GoValue → Json
  | .any, v => encodeAny v
  | .string, v => .string v.str
  | .map t, .map es => .object (sortMembers (encodeEntries t es))
  | .slice t, .slice xs => .array (encodeElems t xs)
  | .struct fs, .struct vs => .object (encodeFields fs vs)
  | _, _ => .null

/-- A typed map's entries encoded, in map order. -/
def encodeEntries (t : GoType) : List (String × GoValue) → List (String × Json)
  | [] => []
  | (k, v) :: es => (k, encode t v) :: encodeEntries t es

/-- A typed slice's elements encoded. -/
def encodeElems (t : GoType) : List GoValue → List Json
  | [] => []
  | v :: vs => encode t v :: encodeElems t vs

/-- A struct's fields encoded under their JSON keys, in declaration order. -/
def encodeFields : List (String × GoType) → List GoValue → List (String × Json)
  | (n, t) :: fs, v :: vs => (n, encode t v) :: encodeFields fs vs
  | _, _ => []
end

/-- `json.Marshal` followed by reading the bytes back as a document: the printed text of a
marshalled value always spells the value's encoding. -/
def marshal (t : GoType) (v : GoValue) : Bytes := some (encode t v)

theorem encode_slice (t : GoType) (xs : List GoValue) :
    encode (.slice t) (.slice xs) = .array (encodeElems t xs) := rfl

/-! ### Lists and objects -/

/-- A typed slice's elements are encoded one by one. -/
theorem encodeElems_eq_map (t : GoType) (vs : List GoValue) : encodeElems t vs = vs.map (encode t) := by
  induction vs with
  | nil => rfl
  | cons v vs ih => rw [encodeElems, ih, List.map_cons]

/-- An array decoded into a fresh slice decodes each element into a fresh value, and fails
when one of them does. -/
theorem decodeElems_fresh (t : GoType) (js : List Json) :
    decodeElems t js [] = js.mapM fun j => decode t j t.zero := by
  induction js with
  | nil => rfl
  | cons j js ih =>
    rw [decodeElems, List.mapM_cons, List.headD_nil, List.tail_nil, ih]
    cases decode t j t.zero <;> cases js.mapM fun j => decode t j t.zero <;> rfl

end Sigstore
