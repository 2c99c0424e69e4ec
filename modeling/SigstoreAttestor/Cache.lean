import Mathlib.Data.List.Nodup
import Mathlib.Data.Finset.Card
import Mathlib.Order.MinMax

/-!
# The signature cache

`sigstorecache.Cacheimpl` is a bounded recency list: `items` holds the cached items, most
recently used first, and `size` is the capacity.  A lookup scans the list from the front
(`getElement`); `GetSignature` moves a hit to the front, and `PutSignature` moves an
existing key to the front or, for a new key, drops the back item when the list is full and
pushes the new item in front.

The Go `Item` holds `[]oci.Signature`, while the engine of `sigstore` stores
`[]SelectorsFromSignatures` under the same algorithm, so the value type is a parameter.
`items.Remove(items.Back())` on an empty list dereferences nil; `PutSignature` returns
`none` there, which happens only at capacity `0`.

## Main definitions

* `Cacheimpl`, `NewCache`, `GetSignature`, `PutSignature` — the cache.
* `CacheOp`, `runCache` — sequences of gets and puts.
* `CacheInv` — the run invariant: distinct keys, at most `size` items, each one put.
* `observe` — the values a sequence of calls reads.
* `LRU` — the reference recency map, with `LRU.put` overwriting and `LRU.putKeep` not;
  `Simulates` relates the cache to it.

## Main results

* `cacheimpl_invariant` — from `NewCache N`, `N ≥ 1`, no run panics, the keys stay
  distinct, the list holds `min N (distinct keys put)` items, each one that was put, and a
  hit carries the key asked for.
* `runCache_fresh_puts` — puts of distinct keys into `NewCache n` leave the last `n` items
  put, the newest first.
* `cacheimpl_refines_lru_keep` — the cache is the reference recency map, except that a put
  on a cached key keeps the old value.
* `putSignature_keeps_stale_value` — hence it diverges from the reference map with
  overwrite: after two puts under one key, the first value is served.
-/

namespace Sigstore

variable {α : Type}

/-! ### The cache -/

/-- A key-value pair. -/
structure Item (α : Type) where
  /-- The image the value was computed for. -/
  Key : String
  /-- The cached value. -/
  Value : α
  deriving Repr, DecidableEq

/-- `Cacheimpl`: the capacity and the items, most recently used first. -/
structure Cacheimpl (α : Type) where
  /-- The capacity `NewCache` was given. -/
  size : ℤ
  /-- The `container/list` of items, front first. -/
  items : List (Item α)
  deriving Repr

/-- `NewCache`: an empty cache of capacity `maximumAmountCache`. -/
def NewCache (maximumAmountCache : ℤ) : Cacheimpl α :=
  { size := maximumAmountCache, items := [] }

/-- `getElement`: the first item, from the front, under `key`. -/
def getElement (items : List (Item α)) (key : String) : Option (Item α) :=
  items.find? (·.Key = key)

/-- The list with the first item under `key` unlinked; `MoveToFront` of that item is the item
consed onto this. -/
def removeKey (key : String) : List (Item α) → List (Item α)
  | [] => []
  | i :: is => if i.Key = key then is else i :: removeKey key is

/-- `GetSignature`: the item under `key`, moved to the front. -/
def Cacheimpl.GetSignature (c : Cacheimpl α) (key : String) : Option (Item α) × Cacheimpl α :=
  match getElement c.items key with
  | none => (none, c)
  | some e => (some e, { c with items := e :: removeKey key c.items })

/-- `PutSignature`: an existing key moves to the front, keeping its old item; a new item goes
in front, after the back item is removed if the list is full.  Removing the back of an empty
list panics (`none`). -/
def Cacheimpl.PutSignature (c : Cacheimpl α) (i : Item α) : Option (Cacheimpl α) :=
  match getElement c.items i.Key with
  | some e => some { c with items := e :: removeKey i.Key c.items }
  | none =>
    if (c.items.length : ℤ) = c.size then
      if c.items.isEmpty then none else some { c with items := i :: c.items.dropLast }
    else some { c with items := i :: c.items }

/-- The keys the cache holds, front first. -/
def Cacheimpl.keys (c : Cacheimpl α) : List String := c.items.map (·.Key)

@[simp] theorem newCache_items (n : ℤ) : (NewCache n : Cacheimpl α).items = [] := rfl

@[simp] theorem newCache_size (n : ℤ) : (NewCache n : Cacheimpl α).size = n := rfl

/-! ### Lookup and unlinking -/

theorem getElement_eq_some {items : List (Item α)} {key : String} {e : Item α}
    (h : getElement items key = some e) : e ∈ items ∧ e.Key = key := by
  unfold getElement at h
  exact ⟨List.mem_of_find?_eq_some h, by simpa using List.find?_some h⟩

theorem getElement_eq_none {items : List (Item α)} {key : String} :
    getElement items key = none ↔ key ∉ items.map (·.Key) := by
  simp [getElement, List.find?_eq_none]

/-- Unlinking the first item under `key` erases the first occurrence of `key`. -/
theorem map_key_removeKey (key : String) (items : List (Item α)) :
    (removeKey key items).map (·.Key) = (items.map (·.Key)).erase key := by
  induction items with
  | nil => rfl
  | cons i is ih =>
    by_cases h : i.Key = key
    · simp [removeKey, h]
    · simp [removeKey, h, ih, List.erase_cons, beq_iff_eq]

/-- The item `getElement` finds, put back in front of the rest, is a permutation. -/
theorem perm_moveToFront {items : List (Item α)} {key : String} {e : Item α}
    (h : getElement items key = some e) : (e :: removeKey key items).Perm items := by
  induction items with
  | nil => simp [getElement] at h
  | cons i is ih =>
    unfold getElement at h
    by_cases hi : i.Key = key
    · simp only [List.find?_cons, hi, decide_True] at h
      cases h
      simp [removeKey, hi]
    · simp only [List.find?_cons, hi, decide_False] at h
      simp only [removeKey, hi, if_false]
      exact (List.Perm.swap i e _).trans (.cons i (ih h))

theorem removeKey_subset (key : String) (items : List (Item α)) : removeKey key items ⊆ items := by
  induction items with
  | nil => exact List.Subset.refl _
  | cons i is ih =>
    unfold removeKey
    split
    · exact List.subset_cons_self _ _
    · exact List.cons_subset_cons _ ih

/-! ### What one step does -/

/-- A hit carries the key asked for, and is an item of the cache. -/
theorem getSignature_some {c : Cacheimpl α} {key : String} {i : Item α}
    (h : (c.GetSignature key).1 = some i) : i ∈ c.items ∧ i.Key = key := by
  unfold Cacheimpl.GetSignature at h
  split at h
  · cases h
  · cases h; exact getElement_eq_some ‹_›

theorem getSignature_of_getElement_none {c : Cacheimpl α} {key : String}
    (h : getElement c.items key = none) : c.GetSignature key = (none, c) := by
  simp [Cacheimpl.GetSignature, h]

theorem getSignature_of_getElement_some {c : Cacheimpl α} {key : String} {e : Item α}
    (h : getElement c.items key = some e) :
    c.GetSignature key = (some e, { c with items := e :: removeKey key c.items }) := by
  simp [Cacheimpl.GetSignature, h]

/-- A lookup only reorders the items. -/
theorem getSignature_perm (c : Cacheimpl α) (key : String) :
    (c.GetSignature key).2.items.Perm c.items ∧ (c.GetSignature key).2.size = c.size := by
  unfold Cacheimpl.GetSignature
  split
  · exact ⟨.refl _, rfl⟩
  · exact ⟨perm_moveToFront ‹_›, rfl⟩

/-- Everything `PutSignature` can do: move a cached key to the front, push a new item in
front of a list that is not full, or push it in front of a full non-empty list without its
back item. -/
theorem putSignature_cases {c c' : Cacheimpl α} {i : Item α} (h : c.PutSignature i = some c') :
    c'.size = c.size ∧
      ((i.Key ∈ c.keys ∧ c'.items.Perm c.items) ∨
      (i.Key ∉ c.keys ∧ (c.items.length : ℤ) ≠ c.size ∧ c'.items = i :: c.items) ∨
      (i.Key ∉ c.keys ∧ (c.items.length : ℤ) = c.size ∧ c.items ≠ [] ∧
        c'.items = i :: c.items.dropLast)) := by
  unfold Cacheimpl.PutSignature at h
  split at h
  · next e he =>
    cases h
    obtain ⟨hm, hk⟩ := getElement_eq_some he
    exact ⟨rfl, .inl ⟨List.mem_map.2 ⟨e, hm, hk⟩, perm_moveToFront he⟩⟩
  · next he =>
    have hk : i.Key ∉ c.keys := getElement_eq_none.1 he
    split at h
    · split at h
      · cases h
      · next hne => cases h; exact ⟨rfl, .inr (.inr ⟨hk, ‹_›, by simpa [List.isEmpty_iff] using hne, rfl⟩)⟩
    · cases h; exact ⟨rfl, .inr (.inl ⟨hk, ‹_›, rfl⟩)⟩

/-- `PutSignature` panics only on a full empty list. -/
theorem putSignature_isSome {c : Cacheimpl α} (i : Item α)
    (h : (c.items.length : ℤ) = c.size → c.items ≠ []) : (c.PutSignature i).isSome := by
  unfold Cacheimpl.PutSignature
  split
  · rfl
  · split
    · simp [List.isEmpty_iff, h ‹_›]
    · rfl

/-- A new key, once put, is found with the item put. -/
theorem getElement_putSignature_new {c c' : Cacheimpl α} {i : Item α} (h : c.PutSignature i = some c')
    (hk : getElement c.items i.Key = none) : getElement c'.items i.Key = some i := by
  rcases (putSignature_cases h).2 with ⟨hm, -⟩ | ⟨-, -, hi⟩ | ⟨-, -, -, hi⟩
  · exact absurd hm (getElement_eq_none.1 hk)
  all_goals simp [hi, getElement]

/-! ### Runs -/

/-- One call on the cache. -/
inductive CacheOp (α : Type) where
  /-- `GetSignature(key)`. -/
  | get (key : String)
  /-- `PutSignature(item)`. -/
  | put (item : Item α)

/-- One call, `none` if it panics. -/
def CacheOp.apply (c : Cacheimpl α) : CacheOp α → Option (Cacheimpl α)
  | .get key => some (c.GetSignature key).2
  | .put i => c.PutSignature i

/-- A sequence of calls, `none` if one of them panics. -/
def runCache (c : Cacheimpl α) : List (CacheOp α) → Option (Cacheimpl α)
  | [] => some c
  | op :: ops => (op.apply c).bind fun c' => runCache c' ops

/-- The items a sequence of calls puts, in order. -/
def putItems : List (CacheOp α) → List (Item α)
  | [] => []
  | .get _ :: ops => putItems ops
  | .put i :: ops => i :: putItems ops

@[simp] theorem runCache_nil (c : Cacheimpl α) : runCache c [] = some c := rfl

@[simp] theorem runCache_cons (c : Cacheimpl α) (op : CacheOp α) (ops : List (CacheOp α)) :
    runCache c (op :: ops) = (op.apply c).bind fun c' => runCache c' ops := rfl

theorem runCache_append (c : Cacheimpl α) (ops₁ ops₂ : List (CacheOp α)) :
    runCache c (ops₁ ++ ops₂) = (runCache c ops₁).bind (runCache · ops₂) := by
  induction ops₁ generalizing c with
  | nil => rfl
  | cons op ops ih => simp only [List.cons_append, runCache_cons, ih, Option.bind_assoc]

/-- A run keeps the capacity. -/
theorem runCache_size : ∀ {c c' : Cacheimpl α} {ops : List (CacheOp α)},
    runCache c ops = some c' → c'.size = c.size
  | _, _, [], h => by cases h; rfl
  | c, _, op :: ops, h => by
    simp only [runCache_cons, Option.bind_eq_some] at h
    obtain ⟨c₁, h₁, h⟩ := h
    rw [runCache_size h]
    cases op with
    | get key => cases h₁; exact (getSignature_perm c key).2
    | put i => exact (putSignature_cases h₁).1

/-! ### The representation invariant -/

/-- The invariant of a cache whose puts so far were `P`: distinct keys, at most `size`
items, each of them put, and either the list is full or it still holds every key put. -/
structure CacheInv (P : List (Item α)) (c : Cacheimpl α) : Prop where
  nodup : c.keys.Nodup
  length_le : (c.items.length : ℤ) ≤ c.size
  mem_put : ∀ i ∈ c.items, i ∈ P
  full_or_all : (c.items.length : ℤ) = c.size ∨ ∀ i ∈ P, i.Key ∈ c.keys

theorem cacheInv_newCache (N : ℤ) (hN : 0 ≤ N) : CacheInv [] (NewCache N : Cacheimpl α) :=
  ⟨List.nodup_nil, by simpa using hN, by simp, .inr (by simp)⟩

/-- Reordering the items keeps the invariant. -/
theorem CacheInv.of_perm {P : List (Item α)} {c c' : Cacheimpl α} (hc : CacheInv P c)
    (hp : c'.items.Perm c.items) (hs : c'.size = c.size) : CacheInv P c' := by
  have hk : c'.keys.Perm c.keys := hp.map _
  refine ⟨hk.nodup_iff.2 hc.nodup, by rw [hp.length_eq, hs]; exact hc.length_le,
    fun i hi => hc.mem_put i (hp.subset hi), ?_⟩
  rw [hp.length_eq, hs]
  exact hc.full_or_all.imp_right fun h i hi => hk.symm.subset (h i hi)

/-- Pushing an item with a new key in front of a sublist of the items keeps the keys distinct
and every item one that was put. -/
theorem CacheInv.push {P : List (Item α)} {c c' : Cacheimpl α} (hc : CacheInv P c) {i : Item α}
    {l : List (Item α)} (hl : l.Sublist c.items) (hk : i.Key ∉ c.keys) (hi : c'.items = i :: l) :
    c'.keys.Nodup ∧ ∀ j ∈ c'.items, j ∈ P ++ [i] := by
  refine ⟨?_, fun j hj => ?_⟩
  · rw [Cacheimpl.keys, hi, List.map_cons, List.nodup_cons]
    exact ⟨fun h => hk ((hl.map _).subset h), hc.nodup.sublist (hl.map _)⟩
  · rw [hi] at hj
    rcases List.mem_cons.1 hj with rfl | hj
    · simp
    · exact List.mem_append_left _ (hc.mem_put j (hl.subset hj))

/-- One call keeps the invariant and, at capacity at least `1`, never panics. -/
theorem cacheInv_step {P : List (Item α)} {c : Cacheimpl α} (hc : CacheInv P c)
    (hs : 1 ≤ c.size) (op : CacheOp α) :
    ∃ c', op.apply c = some c' ∧ CacheInv (P ++ putItems [op]) c' ∧ c'.size = c.size := by
  cases op with
  | get key =>
    obtain ⟨hp, hsz⟩ := getSignature_perm c key
    exact ⟨_, rfl, by simpa [putItems] using hc.of_perm hp hsz, hsz⟩
  | put i =>
    have hne : (c.items.length : ℤ) = c.size → c.items ≠ [] := by
      intro h he; rw [he] at h; simp at h; omega
    obtain ⟨c', hc'⟩ := Option.isSome_iff_exists.1 (putSignature_isSome i hne)
    obtain ⟨hsz, hcase⟩ := putSignature_cases hc'
    refine ⟨c', hc', ?_, hsz⟩
    simp only [putItems, List.append_nil]
    have hle := hc.length_le
    rcases hcase with ⟨hk, hp⟩ | ⟨hk, hlen, hi⟩ | ⟨hk, hlen, -, hi⟩
    · -- a cached key moves to the front
      have h := hc.of_perm hp hsz
      refine ⟨h.nodup, h.length_le, fun j hj => List.mem_append_left _ (h.mem_put j hj), ?_⟩
      refine h.full_or_all.imp_right fun hall j hj => ?_
      rcases List.mem_append.1 hj with hj | hj
      · exact hall j hj
      · rw [List.mem_singleton.1 hj]
        exact (hp.map (·.Key)).symm.subset hk
    · -- a new key in front of a list that is not full
      obtain ⟨hnd, hput⟩ := hc.push (List.Sublist.refl _) hk hi
      have hall := hc.full_or_all.resolve_left hlen
      refine ⟨hnd, by rw [hi, hsz]; simp only [List.length_cons, Nat.cast_succ]; omega, hput, ?_⟩
      rw [hi, hsz, Cacheimpl.keys, hi]
      refine (em _).imp id fun _ j hj => ?_
      simp only [List.map_cons, List.mem_cons]
      rcases List.mem_append.1 hj with hj | hj
      · exact .inr (hall j hj)
      · exact .inl (by rw [List.mem_singleton.1 hj])
    · -- a new key in front of a full list, whose back item is dropped
      obtain ⟨hnd, hput⟩ := hc.push (List.dropLast_sublist _) hk hi
      have hlen' : ((i :: c.items.dropLast).length : ℤ) = c.size := by
        have : c.items.length ≠ 0 := by
          intro h0; rw [h0] at hlen; simp at hlen; omega
        simp only [List.length_cons, List.length_dropLast, ← hlen]; omega
      exact ⟨hnd, by rw [hi, hsz, hlen'], hput, .inl (by rw [hi, hsz, hlen'])⟩

/-- A run keeps the invariant and never panics. -/
theorem cacheInv_run {P : List (Item α)} {c : Cacheimpl α} (hc : CacheInv P c)
    (hs : 1 ≤ c.size) (ops : List (CacheOp α)) :
    ∃ c', runCache c ops = some c' ∧ CacheInv (P ++ putItems ops) c' ∧ c'.size = c.size := by
  induction ops generalizing P c with
  | nil => exact ⟨c, rfl, by simpa [putItems] using hc, rfl⟩
  | cons op ops ih =>
    obtain ⟨c₁, h₁, hinv₁, hs₁⟩ := cacheInv_step hc hs op
    obtain ⟨c₂, h₂, hinv₂, hs₂⟩ := ih hinv₁ (hs₁ ▸ hs)
    refine ⟨c₂, by simp [h₁, h₂], ?_, hs₂.trans hs₁⟩
    have : putItems (op :: ops) = putItems [op] ++ putItems ops := by cases op <;> rfl
    rwa [this, ← List.append_assoc]

/-- Under the invariant the list holds `min size (distinct keys put)` items. -/
theorem CacheInv.length_eq {P : List (Item α)} {c : Cacheimpl α} (hc : CacheInv P c) :
    (c.items.length : ℤ) = min c.size (P.map (·.Key)).toFinset.card := by
  have hcard : c.keys.toFinset.card = c.items.length := by
    rw [List.toFinset_card_of_nodup hc.nodup]; simp [Cacheimpl.keys]
  have hsub : c.keys.toFinset ⊆ (P.map (·.Key)).toFinset := by
    intro k hk
    simp only [Cacheimpl.keys, List.mem_toFinset, List.mem_map] at hk ⊢
    obtain ⟨i, hi, rfl⟩ := hk
    exact ⟨i, hc.mem_put i hi, rfl⟩
  have hle : c.items.length ≤ (P.map (·.Key)).toFinset.card := hcard ▸ Finset.card_le_card hsub
  rcases hc.full_or_all with h | h
  · rw [h, min_eq_left (h ▸ by exact_mod_cast hle)]
  · have hsup : (P.map (·.Key)).toFinset ⊆ c.keys.toFinset := by
      intro k hk
      simp only [List.mem_toFinset, List.mem_map] at hk
      obtain ⟨i, hi, rfl⟩ := hk
      exact List.mem_toFinset.2 (h i hi)
    have heq := le_antisymm hle (hcard ▸ Finset.card_le_card hsup)
    rw [← heq, min_eq_right hc.length_le]

/-- **The cache's representation invariant.**  From `NewCache N` with `N ≥ 1`, no sequence of
calls panics; after it the keys are distinct, the list holds `min N k` items where `k` is the
number of distinct keys put, every item is one that was put, and every hit carries the key
it was asked for. -/
theorem cacheimpl_invariant (N : ℤ) (hN : 1 ≤ N) (ops : List (CacheOp α)) :
    ∃ c, runCache (NewCache N) ops = some c ∧ c.keys.Nodup ∧
      (c.items.length : ℤ) = min N ((putItems ops).map (·.Key)).toFinset.card ∧
      (∀ i ∈ c.items, i ∈ putItems ops) ∧
      ∀ key i, (c.GetSignature key).1 = some i → i.Key = key := by
  obtain ⟨c, hrun, hinv, hsize⟩ := cacheInv_run (cacheInv_newCache N (by omega)) (by simpa using hN) ops
  rw [List.nil_append] at hinv
  refine ⟨c, hrun, hinv.nodup, ?_, hinv.mem_put, fun key i h => (getSignature_some h).2⟩
  rw [hinv.length_eq, hsize, newCache_size]

/-- Two puts of distinct keys into a cache of capacity `1`. -/
def twoPuts : List (CacheOp ℕ) := [.put ⟨"a", 0⟩, .put ⟨"b", 1⟩]

theorem cacheimpl_invariant_twoPuts :
    ∃ c, runCache (NewCache 1) twoPuts = some c ∧ c.keys.Nodup ∧
      (c.items.length : ℤ) = min 1 ((putItems twoPuts).map (·.Key)).toFinset.card ∧
      (∀ i ∈ c.items, i ∈ putItems twoPuts) ∧
      ∀ key i, (c.GetSignature key).1 = some i → i.Key = key :=
  cacheimpl_invariant 1 le_rfl twoPuts

/-! ### Eviction order -/

/-- A new key put into a cache that holds the first `n` items of a list, `n ≥ 1`, leaves the
first `n` items of the list with the new item in front: the back item goes when the list is
full. -/
theorem putSignature_new_take {n : ℕ} (hn : 1 ≤ n) {l : List (Item α)} {i : Item α}
    (hk : i.Key ∉ l.map (·.Key)) :
    (⟨n, l.take n⟩ : Cacheimpl α).PutSignature i = some ⟨n, (i :: l).take n⟩ := by
  obtain ⟨m, rfl⟩ : ∃ m, n = m + 1 := ⟨n - 1, by omega⟩
  have hnew : getElement (l.take (m + 1)) i.Key = none :=
    getElement_eq_none.2 fun h => hk (List.map_subset _ (List.take_subset _ l) h)
  have hlen := List.length_take (m + 1) l
  simp only [Cacheimpl.PutSignature, hnew, List.take_succ_cons, Option.some.injEq]
  by_cases hl : m + 1 ≤ l.length
  · -- full: the back item is dropped
    have hfull : ((l.take (m + 1)).length : ℤ) = ((m + 1 : ℕ) : ℤ) := by rw [hlen]; omega
    have hne : (l.take (m + 1)).isEmpty = false := by
      rw [← Bool.not_eq_true, List.isEmpty_iff, ← List.length_eq_zero, hlen]; omega
    rw [if_pos hfull, hne, if_neg Bool.false_ne_true, List.dropLast_eq_take, List.take_take, hlen]
    congr 4
    omega
  · -- not full: the item is pushed in front
    have hshort : ((l.take (m + 1)).length : ℤ) ≠ ((m + 1 : ℕ) : ℤ) := by rw [hlen]; omega
    rw [if_neg hshort, List.take_of_length_le (by omega : l.length ≤ m), List.take_of_length_le (by omega)]

/-- **Eviction order.**  Putting items with distinct keys into `NewCache n`, `n ≥ 1`, leaves
the last `n` of them, the newest first: each put of a new key into a full cache evicts the
oldest item. -/
theorem runCache_fresh_puts {n : ℕ} (hn : 1 ≤ n) (items : List (Item α))
    (hk : (items.map (·.Key)).Nodup) :
    runCache (NewCache n) (items.map .put) = some ⟨n, items.reverse.take n⟩ := by
  induction items using List.reverseRecOn with
  | nil => simp [NewCache]
  | append_singleton items i ih =>
    rw [List.map_append, List.nodup_append] at hk
    have hi : i.Key ∉ items.reverse.map (·.Key) := by
      rw [List.map_reverse, List.mem_reverse]
      exact fun h => hk.2.2 h (List.mem_singleton_self _)
    rw [List.map_append, runCache_append, ih hk.1, Option.some_bind, List.map_singleton,
      runCache_cons, CacheOp.apply, putSignature_new_take hn hi, List.reverse_append]
    rfl

theorem runCache_fresh_puts_twoPuts :
    runCache (NewCache ((1 : ℕ) : ℤ)) (([⟨"a", 0⟩, ⟨"b", 1⟩] : List (Item ℕ)).map .put) =
      some ⟨(1 : ℕ), [(⟨"b", 1⟩ : Item ℕ)]⟩ :=
  runCache_fresh_puts le_rfl [⟨"a", 0⟩, ⟨"b", 1⟩] (by decide)

/-! ### The reference recency map -/

/-- The reference LRU map of capacity `capacity`: the keys it holds, most recently used
first, and a value per key (read only at held keys). -/
structure LRU (α : Type) where
  /-- How many keys it holds at most. -/
  capacity : ℕ
  /-- The held keys, most recently used first. -/
  recency : List String
  /-- The value of each held key. -/
  value : String → Option α

/-- The empty map. -/
def LRU.empty (capacity : ℕ) : LRU α := ⟨capacity, [], fun _ => none⟩

/-- A read: the value of a held key, which becomes the most recently used. -/
def LRU.get (m : LRU α) (k : String) : Option α × LRU α :=
  if k ∈ m.recency then (m.value k, { m with recency := k :: m.recency.erase k }) else (none, m)

/-- The recency order after writing `k`: `k` first, the least recently used key evicted when
a new key arrives at capacity. -/
def LRU.touch (m : LRU α) (k : String) : List String :=
  if k ∈ m.recency then k :: m.recency.erase k
  else if m.recency.length = m.capacity then k :: m.recency.dropLast
  else k :: m.recency

/-- A write that overwrites: afterwards `k` holds `v`. -/
def LRU.put (m : LRU α) (k : String) (v : α) : LRU α :=
  { m with recency := m.touch k, value := Function.update m.value k (some v) }

/-- A write that leaves the value of a held key as it was. -/
def LRU.putKeep (m : LRU α) (k : String) (v : α) : LRU α :=
  if k ∈ m.recency then { m with recency := m.touch k } else m.put k v

/-- The values a sequence of calls reads from the reference map, writes overwriting. -/
def LRU.observe (m : LRU α) : List (CacheOp α) → List (Option α)
  | [] => []
  | .get k :: ops => (m.get k).1 :: (m.get k).2.observe ops
  | .put i :: ops => (m.put i.Key i.Value).observe ops

/-- The values a sequence of calls reads from the reference map, writes keeping old values. -/
def LRU.observeKeep (m : LRU α) : List (CacheOp α) → List (Option α)
  | [] => []
  | .get k :: ops => (m.get k).1 :: (m.get k).2.observeKeep ops
  | .put i :: ops => (m.putKeep i.Key i.Value).observeKeep ops

/-- The values a sequence of calls reads from the cache, `none` if a call panics. -/
def observe (c : Cacheimpl α) : List (CacheOp α) → Option (List (Option α))
  | [] => some []
  | .get k :: ops =>
    (observe (c.GetSignature k).2 ops).map (((c.GetSignature k).1.map (·.Value)) :: ·)
  | .put i :: ops => (c.PutSignature i).bind fun c' => observe c' ops

/-- The cache `c` stands for the reference map `m`: same capacity, same keys in the same
order, and the item `getElement` finds under a held key carries its value. -/
structure Simulates (c : Cacheimpl α) (m : LRU α) : Prop where
  size_eq : c.size = m.capacity
  keys_eq : c.keys = m.recency
  value_eq : ∀ k ∈ m.recency, (getElement c.items k).map (·.Value) = m.value k

@[simp] theorem getElement_cons (i : Item α) (is : List (Item α)) (k : String) :
    getElement (i :: is) k = if i.Key = k then some i else getElement is k := by
  by_cases h : i.Key = k <;> simp [getElement, List.find?_cons, h]

theorem getElement_removeKey_of_ne {k k' : String} (h : k' ≠ k) (items : List (Item α)) :
    getElement (removeKey k items) k' = getElement items k' := by
  induction items with
  | nil => rfl
  | cons i is ih =>
    by_cases hi : i.Key = k
    · simp [removeKey, hi, Ne.symm h]
    · simp [removeKey, hi, ih]

/-- Moving the item `getElement` found to the front changes no lookup. -/
theorem getElement_moveToFront {items : List (Item α)} {k : String} {e : Item α}
    (h : getElement items k = some e) (k' : String) :
    getElement (e :: removeKey k items) k' = getElement items k' := by
  have hk := (getElement_eq_some h).2
  by_cases hk' : k' = k
  · subst hk'; simp [hk, h]
  · simp [hk, Ne.symm hk', getElement_removeKey_of_ne hk']

/-- A key held before the back item is dropped is found where it was. -/
theorem getElement_dropLast {items : List (Item α)} {k : String}
    (h : k ∈ items.dropLast.map (·.Key)) : getElement items.dropLast k = getElement items k := by
  have hne : items ≠ [] := by rintro rfl; simp at h
  obtain ⟨e, he, rfl⟩ := List.mem_map.1 h
  have hsome : getElement items.dropLast e.Key ≠ none := by
    rw [Ne, getElement_eq_none, not_not]; exact h
  conv_rhs => rw [← List.dropLast_append_getLast hne]
  unfold getElement at hsome ⊢
  rw [List.find?_append]
  cases hf : items.dropLast.find? (·.Key = e.Key)
  · exact absurd hf hsome
  · rfl

theorem Simulates.moveToFront {c : Cacheimpl α} {m : LRU α} (h : Simulates c m) {k : String}
    {e : Item α} (he : getElement c.items k = some e) :
    Simulates { c with items := e :: removeKey k c.items } { m with recency := k :: m.recency.erase k } := by
  refine ⟨h.size_eq, ?_, fun k' hk' => ?_⟩
  · simp only [Cacheimpl.keys, List.map_cons, map_key_removeKey, (getElement_eq_some he).2]
    rw [← h.keys_eq]; rfl
  · rw [getElement_moveToFront he]
    refine h.value_eq k' ?_
    rcases List.mem_cons.1 hk' with rfl | hk'
    · rw [← h.keys_eq]; exact getElement_eq_none.not_left.1 (by simp [he])
    · exact List.mem_of_mem_erase hk'

/-- A read on the cache reads what the reference map reads. -/
theorem Simulates.get {c : Cacheimpl α} {m : LRU α} (h : Simulates c m) (k : String) :
    (c.GetSignature k).1.map (·.Value) = (m.get k).1 ∧ Simulates (c.GetSignature k).2 (m.get k).2 := by
  unfold Cacheimpl.GetSignature LRU.get
  split
  · next he =>
    have hk : k ∉ m.recency := h.keys_eq ▸ getElement_eq_none.1 he
    simp [hk, h]
  · next e he =>
    have hk : k ∈ m.recency := h.keys_eq ▸ getElement_eq_none.not_left.1 (by simp [he])
    simp only [hk, if_true, Option.map_some']
    exact ⟨by rw [← h.value_eq k hk, he]; rfl, h.moveToFront he⟩

/-- A new item in front of items `l` whose keys the map holds, and which find what the cache
found, reads as the map with the new value written. -/
theorem Simulates.value_push {c : Cacheimpl α} {m : LRU α} (h : Simulates c m) (i : Item α)
    {l : List (Item α)} (hsub : ∀ k ∈ l.map (·.Key), k ∈ m.recency)
    (hfind : ∀ k ∈ l.map (·.Key), getElement l k = getElement c.items k) :
    ∀ k ∈ i.Key :: l.map (·.Key), (getElement (i :: l) k).map (·.Value) =
      Function.update m.value i.Key (some i.Value) k := by
  intro k hk
  by_cases hki : k = i.Key
  · subst hki; simp
  · have hkl : k ∈ l.map (·.Key) := (List.mem_cons.1 hk).resolve_left hki
    simp only [getElement_cons, Ne.symm hki, if_false, Function.update_noteq hki]
    rw [hfind k hkl]
    exact h.value_eq k (hsub k hkl)

/-- A write on the cache is a write on the reference map that keeps the old value of a held
key. -/
theorem Simulates.put {c c' : Cacheimpl α} {m : LRU α} (h : Simulates c m) (i : Item α)
    (hc : c.PutSignature i = some c') : Simulates c' (m.putKeep i.Key i.Value) := by
  have hkeys : c.items.map (·.Key) = m.recency := h.keys_eq
  have hlen : c.items.length = m.recency.length := by rw [← hkeys, List.length_map]
  unfold Cacheimpl.PutSignature at hc
  unfold LRU.putKeep
  split at hc
  · next e he =>
    cases hc
    have hk : i.Key ∈ m.recency := h.keys_eq ▸ getElement_eq_none.not_left.1 (by simp [he])
    simpa [hk, LRU.touch] using h.moveToFront he
  · next he =>
    have hk : i.Key ∉ m.recency := h.keys_eq ▸ getElement_eq_none.1 he
    simp only [hk, if_false, LRU.put, LRU.touch]
    split at hc
    · next hfull =>
      split at hc
      · cases hc
      · cases hc
        have hcap : m.recency.length = m.capacity := by
          have := h.size_eq; rw [hlen] at hfull; omega
        have hdrop : c.items.dropLast.map (·.Key) = m.recency.dropLast := by
          rw [List.map_dropLast, hkeys]
        rw [if_pos hcap]
        refine ⟨h.size_eq, by simp [Cacheimpl.keys, hdrop], ?_⟩
        rw [← hdrop]
        exact h.value_push i (fun k hk' => List.dropLast_subset _ (hdrop ▸ hk'))
          fun k hk' => getElement_dropLast hk'
    · next hfull =>
      cases hc
      have hcap : m.recency.length ≠ m.capacity := by
        have := h.size_eq; rw [hlen] at hfull; omega
      rw [if_neg hcap]
      refine ⟨h.size_eq, by simp [Cacheimpl.keys, hkeys], ?_⟩
      rw [← hkeys]
      exact h.value_push i (fun k hk' => hkeys ▸ hk') fun _ _ => rfl

/-- A cache standing for a map of capacity at least `1` never panics on a write. -/
theorem Simulates.putSignature_isSome {c : Cacheimpl α} {m : LRU α} (h : Simulates c m)
    (hm : 1 ≤ m.capacity) (i : Item α) : (c.PutSignature i).isSome := by
  refine Sigstore.putSignature_isSome i fun hfull he => ?_
  rw [he, h.size_eq] at hfull; simp at hfull; omega

theorem Simulates.observe {c : Cacheimpl α} {m : LRU α} (h : Simulates c m)
    (hm : 1 ≤ m.capacity) (ops : List (CacheOp α)) : observe c ops = some (m.observeKeep ops) := by
  induction ops generalizing c m with
  | nil => rfl
  | cons op ops ih =>
    cases op with
    | get k =>
      obtain ⟨hr, hs⟩ := h.get k
      simp only [Sigstore.observe, LRU.observeKeep, hr, ih hs (by unfold LRU.get; split <;> exact hm)]
      rfl
    | put i =>
      obtain ⟨c', hc'⟩ := Option.isSome_iff_exists.1 (h.putSignature_isSome hm i)
      have hcap : (m.putKeep i.Key i.Value).capacity = m.capacity := by
        unfold LRU.putKeep; split <;> rfl
      simp only [Sigstore.observe, LRU.observeKeep, hc', Option.some_bind]
      exact ih (h.put i hc') (hcap ▸ hm)

/-- **The cache refines the reference recency map whose writes keep old values.**  For every
capacity `N ≥ 1` and every sequence of calls on `NewCache N`, every read returns what the
reference map reads: present exactly when the key is held, with recency refreshed by reads
and writes and the least recently used key evicted first. -/
theorem cacheimpl_refines_lru_keep (N : ℕ) (hN : 1 ≤ N) (ops : List (CacheOp α)) :
    observe (NewCache N) ops = some ((LRU.empty N).observeKeep ops) :=
  Simulates.observe ⟨rfl, rfl, by simp [LRU.empty]⟩ hN ops

theorem cacheimpl_refines_lru_keep_twoPuts :
    observe (NewCache 1) (twoPuts ++ [.get "a", .get "b"]) =
      some ((LRU.empty 1).observeKeep (twoPuts ++ [.get "a", .get "b"])) :=
  cacheimpl_refines_lru_keep 1 le_rfl _

/-- The two `Item`s of `TestCacheimpl_PutSignature` stored under `"signature3"`, their
values reduced to the subjects they carry. -/
def signature3 : Item String := ⟨"signature3", "spirex3@example.com"⟩

/-- The updated item the test puts after `signature3`. -/
def signature3Updated : Item String := ⟨"signature3", "spirex4@example.com"⟩

/-- A put on a cached key keeps the stale value, where the reference map with overwrite (and
the test) reads the new one. -/
theorem putSignature_keeps_stale_value :
    observe (NewCache 2) [.put signature3, .put signature3Updated, .get "signature3"] =
        some [some "spirex3@example.com"] ∧
      (LRU.empty 2).observe [.put signature3, .put signature3Updated, .get "signature3"] =
        [some "spirex4@example.com"] := by
  decide

end Sigstore
