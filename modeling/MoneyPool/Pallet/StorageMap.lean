import Mathlib

/-!
# Storage maps

A storage map is a finite table from keys to values. Reading a key that was never
written gives the default value, writing a key replaces its value in place, and a
key that is new goes to the front of the enumeration order. That no key occurs
twice is part of the type, so that every operation below keeps it once and for
all.

The second half of the file is about **totals**. `Pallet.StorageMap.total` sums a
weight over the entries; `Pallet.StorageMap.total_insert` and
`Pallet.StorageMap.total_remove` say what one write does to it, and
`Pallet.StorageMap.total_eq_finsum` that it is the sum over *all* keys as soon as
the default value weighs nothing.
-/

namespace Pallet

/-- **A storage map**: its entries in enumeration order, no key occurring twice. -/
structure StorageMap (κ α : Type) where
  /-- The entries, newest key first. -/
  entries : List (κ × α)
  /-- No key occurs twice. -/
  nodup : (entries.map Prod.fst).Nodup

namespace StorageMap

variable {κ α : Type} [DecidableEq κ]

/-! ### Lists of entries -/

/-- The value a list of entries gives a key. -/
def lookup (k : κ) : List (κ × α) → Option α
  | [] => none
  | (k', v) :: es => if k' = k then some v else lookup k es

/-- The entries with the value of a key replaced where it stands. -/
def replace (k : κ) (v : α) : List (κ × α) → List (κ × α)
  | [] => []
  | (k', v') :: es => if k' = k then (k', v) :: es else (k', v') :: replace k v es

@[simp] theorem map_fst_replace (k : κ) (v : α) (es : List (κ × α)) :
    (replace k v es).map Prod.fst = es.map Prod.fst := by
  induction es with
  | nil => rfl
  | cons e es ih =>
    rw [replace]
    by_cases h : e.1 = k
    · rw [if_pos h, List.map_cons, List.map_cons]
    · rw [if_neg h, List.map_cons, List.map_cons, ih]

theorem lookup_eq_none_iff {k : κ} {es : List (κ × α)} :
    lookup k es = none ↔ k ∉ es.map Prod.fst := by
  induction es with
  | nil => simp [lookup]
  | cons e es ih =>
    rw [lookup, List.map_cons, List.mem_cons, not_or]
    by_cases h : e.1 = k
    · simp [h]
    · simp [h, ih, Ne.symm h]

theorem lookup_replace {k : κ} {es : List (κ × α)} (h : k ∈ es.map Prod.fst) (v : α) (k' : κ) :
    lookup k' (replace k v es) = if k' = k then some v else lookup k' es := by
  induction es with
  | nil => simp at h
  | cons e es ih =>
    rw [replace]
    by_cases he : e.1 = k
    · rw [if_pos he, lookup, lookup]
      simp only [he, eq_comm]
      split <;> rfl
    · have hk : k ∈ es.map Prod.fst := (List.mem_cons.mp h).resolve_left (Ne.symm he)
      rw [if_neg he, lookup, lookup, ih hk]
      by_cases hk' : e.1 = k'
      · rw [if_pos hk', if_pos hk', if_neg (hk' ▸ he)]
      · rw [if_neg hk', if_neg hk']

theorem mem_of_lookup {k : κ} {v : α} {es : List (κ × α)} (h : lookup k es = some v) :
    (k, v) ∈ es := by
  induction es with
  | nil => simp [lookup] at h
  | cons e es ih =>
    rw [lookup] at h
    by_cases he : e.1 = k
    · rw [if_pos he, Option.some.injEq] at h
      exact List.mem_cons.mpr (Or.inl (Prod.ext he.symm h.symm))
    · rw [if_neg he] at h
      exact List.mem_cons_of_mem _ (ih h)

theorem lookup_of_mem {k : κ} {v : α} {es : List (κ × α)} (hnd : (es.map Prod.fst).Nodup)
    (h : (k, v) ∈ es) : lookup k es = some v := by
  induction es with
  | nil => simp at h
  | cons e es ih =>
    rw [List.map_cons, List.nodup_cons] at hnd
    rw [lookup]
    rcases List.mem_cons.mp h with rfl | h'
    · exact if_pos rfl
    · have hne : e.1 ≠ k := fun he => hnd.1 (he ▸ List.mem_map_of_mem (f := Prod.fst) h')
      rw [if_neg hne, ih hnd.2 h']

/-! ### The operations -/

/-- The empty map. -/
def empty : StorageMap κ α := ⟨[], List.nodup_nil⟩

omit [DecidableEq κ] in
@[simp] theorem entries_empty : (empty : StorageMap κ α).entries = [] := rfl

/-- The keys, in enumeration order. -/
def keys (m : StorageMap κ α) : List κ := m.entries.map Prod.fst

/-- The value stored under a key, if any. -/
def get? (m : StorageMap κ α) (k : κ) : Option α := lookup k m.entries

/-- The value of a key: the one stored under it, or the default one. -/
def get [Inhabited α] (m : StorageMap κ α) (k : κ) : α := (m.get? k).getD default

/-- Whether something is stored under a key. -/
def containsKey (m : StorageMap κ α) (k : κ) : Bool := (m.get? k).isSome

/-- Write a key: in place if it is there, at the front if it is not. -/
def insert (m : StorageMap κ α) (k : κ) (v : α) : StorageMap κ α :=
  if h : k ∈ m.keys then ⟨replace k v m.entries, by rw [map_fst_replace]; exact m.nodup⟩
  else ⟨(k, v) :: m.entries, List.nodup_cons.mpr ⟨h, m.nodup⟩⟩

/-- Delete a key. -/
def remove (m : StorageMap κ α) (k : κ) : StorageMap κ α :=
  ⟨m.entries.filter fun e => e.1 ≠ k, m.nodup.sublist (List.filter_sublist.map _)⟩

/-- Read the value of a key, defaulting, and write it back changed. -/
def mutate [Inhabited α] (m : StorageMap κ α) (k : κ) (f : α → α) : StorageMap κ α :=
  m.insert k (f (m.get k))

/-! ### Reading after a write -/

omit [DecidableEq κ] in
theorem nodup_keys (m : StorageMap κ α) : m.keys.Nodup := m.nodup

theorem get?_eq_none_iff {m : StorageMap κ α} {k : κ} : m.get? k = none ↔ k ∉ m.keys :=
  lookup_eq_none_iff

theorem get?_eq_some_iff {m : StorageMap κ α} {k : κ} {v : α} :
    m.get? k = some v ↔ (k, v) ∈ m.entries :=
  ⟨mem_of_lookup, lookup_of_mem m.nodup⟩

theorem containsKey_iff_mem {m : StorageMap κ α} {k : κ} : m.containsKey k = true ↔ k ∈ m.keys := by
  rw [containsKey, Option.isSome_iff_ne_none, ne_eq, get?_eq_none_iff, not_not]

theorem containsKey_iff_exists {m : StorageMap κ α} {k : κ} :
    m.containsKey k = true ↔ ∃ v, m.get? k = some v :=
  Option.isSome_iff_exists

@[simp] theorem get?_empty (k : κ) : (empty : StorageMap κ α).get? k = none := rfl

@[simp] theorem get_empty [Inhabited α] (k : κ) : (empty : StorageMap κ α).get k = default := rfl

theorem get_of_get? [Inhabited α] {m : StorageMap κ α} {k : κ} {v : α} (h : m.get? k = some v) :
    m.get k = v := by
  rw [get, h, Option.getD_some]

theorem get?_of_containsKey [Inhabited α] {m : StorageMap κ α} {k : κ}
    (h : m.containsKey k = true) : m.get? k = some (m.get k) := by
  obtain ⟨v, hv⟩ := containsKey_iff_exists.mp h
  rw [get_of_get? hv, hv]

theorem containsKey_eq_false {m : StorageMap κ α} {k : κ} :
    m.containsKey k = false ↔ m.get? k = none := by
  rw [containsKey, Option.isSome_eq_false_iff, Option.isNone_iff_eq_none]

theorem get_of_not_containsKey [Inhabited α] {m : StorageMap κ α} {k : κ}
    (h : ¬m.containsKey k = true) : m.get k = default := by
  rw [containsKey, Option.isSome_iff_ne_none, ne_eq, not_not] at h
  rw [get, h, Option.getD_none]

@[simp] theorem get?_insert (m : StorageMap κ α) (k k' : κ) (v : α) :
    (m.insert k v).get? k' = if k' = k then some v else m.get? k' := by
  unfold insert
  split
  · rename_i h
    exact lookup_replace h v k'
  · change (if k = k' then some v else lookup k' m.entries) = _
    simp only [eq_comm]
    rfl

@[simp] theorem get_insert [Inhabited α] (m : StorageMap κ α) (k k' : κ) (v : α) :
    (m.insert k v).get k' = if k' = k then v else m.get k' := by
  rw [get, get?_insert]
  split <;> rfl

@[simp] theorem get?_remove (m : StorageMap κ α) (k k' : κ) :
    (m.remove k).get? k' = if k' = k then none else m.get? k' := by
  have hmem : ∀ v, (k', v) ∈ (m.remove k).entries ↔ k' ≠ k ∧ (k', v) ∈ m.entries := by
    intro v
    simp [remove, and_comm]
  refine Option.ext fun v => ?_
  rw [get?_eq_some_iff, hmem]
  split
  · simp_all
  · rename_i h
    rw [and_iff_right h, get?_eq_some_iff]

@[simp] theorem get_remove [Inhabited α] (m : StorageMap κ α) (k k' : κ) :
    (m.remove k).get k' = if k' = k then default else m.get k' := by
  rw [get, get?_remove]
  split <;> rfl

@[simp] theorem get?_mutate [Inhabited α] (m : StorageMap κ α) (k k' : κ) (f : α → α) :
    (m.mutate k f).get? k' = if k' = k then some (f (m.get k)) else m.get? k' :=
  get?_insert ..

@[simp] theorem get_mutate [Inhabited α] (m : StorageMap κ α) (k k' : κ) (f : α → α) :
    (m.mutate k f).get k' = if k' = k then f (m.get k) else m.get k' :=
  get_insert ..

theorem mem_keys_insert {m : StorageMap κ α} {k k' : κ} {v : α} :
    k' ∈ (m.insert k v).keys ↔ k' = k ∨ k' ∈ m.keys := by
  rw [← not_iff_not, not_or, ← get?_eq_none_iff, ← get?_eq_none_iff, get?_insert]
  split <;> simp_all

theorem containsKey_insert {m : StorageMap κ α} {k k' : κ} {v : α} :
    (m.insert k v).containsKey k' = true ↔ k' = k ∨ m.containsKey k' = true := by
  rw [containsKey_iff_mem, mem_keys_insert, containsKey_iff_mem]

theorem containsKey_remove {m : StorageMap κ α} {k k' : κ} :
    (m.remove k).containsKey k' = true ↔ k' ≠ k ∧ m.containsKey k' = true := by
  rw [containsKey, get?_remove, containsKey]
  split
  · rename_i heq
    exact iff_of_false (fun h => nomatch h) fun h => h.1 heq
  · rename_i hne
    exact (and_iff_right hne).symm

/-- The keys after several entries were written. -/
theorem containsKey_foldl_insert {es : List (κ × α)} {m : StorageMap κ α} {k : κ} :
    (es.foldl (fun m e => m.insert e.1 e.2) m).containsKey k = true ↔
      k ∈ es.map Prod.fst ∨ m.containsKey k = true := by
  induction es generalizing m with
  | nil => simp
  | cons e es ih =>
    rw [List.foldl_cons, ih, containsKey_insert, List.map_cons, List.mem_cons, or_left_comm,
      or_assoc]

/-- A map without keys is empty. -/
theorem eq_empty_of_get? {m : StorageMap κ α} (h : ∀ k, m.get? k = none) : m = empty := by
  obtain ⟨es, hnd⟩ := m
  cases es with
  | nil => rfl
  | cons e es =>
    have hnot := get?_eq_none_iff.mp (h e.1)
    exact absurd (List.mem_cons_self ..) hnot

theorem replace_replace (k : κ) (v v' : α) (es : List (κ × α)) :
    replace k v' (replace k v es) = replace k v' es := by
  induction es with
  | nil => rfl
  | cons e es ih =>
    by_cases h : e.1 = k
    · simp only [replace, if_pos h]
    · simp only [replace, if_neg h, ih]

/-- Of two writes of a key the second one counts. -/
@[simp] theorem insert_insert (m : StorageMap κ α) (k : κ) (v v' : α) :
    (m.insert k v).insert k v' = m.insert k v' := by
  have hmem : k ∈ (m.insert k v).keys := mem_keys_insert.mpr (Or.inl rfl)
  rw [insert, dif_pos hmem]
  by_cases h : k ∈ m.keys
  · simp only [insert, dif_pos h, replace_replace]
  · simp only [insert, dif_neg h, replace, if_true]

/-- Deleting a key that was not there before restores the map. -/
theorem remove_insert_new {m : StorageMap κ α} {k : κ} (h : m.get? k = none) (v : α) :
    (m.insert k v).remove k = m := by
  have hk : k ∉ m.keys := get?_eq_none_iff.mp h
  have hkept : ∀ e ∈ m.entries, decide (e.1 ≠ k) = true := fun e he =>
    decide_eq_true fun heq => hk (heq ▸ List.mem_map_of_mem (f := Prod.fst) he)
  obtain ⟨es, hnd⟩ := m
  simp only [remove, insert, dif_neg hk, mk.injEq]
  rw [List.filter_cons_of_neg (by simp), List.filter_eq_self.mpr hkept]

/-- Reading after the same value was written under several keys. -/
theorem get?_foldl_insert (ks : List κ) (v : α) (m : StorageMap κ α) (k : κ) :
    (ks.foldl (fun m k => m.insert k v) m).get? k = if k ∈ ks then some v else m.get? k := by
  induction ks generalizing m with
  | nil => simp
  | cons k' ks ih =>
    rw [List.foldl_cons, ih, get?_insert]
    by_cases hks : k ∈ ks
    · simp [hks]
    · by_cases hk : k = k' <;> simp [hks, hk]

/-- Writing back what is there changes nothing. -/
theorem insert_of_get? {m : StorageMap κ α} {k : κ} {v : α} (h : m.get? k = some v) :
    m.insert k v = m := by
  have hk : k ∈ m.keys := List.mem_map_of_mem (f := Prod.fst) (get?_eq_some_iff.mp h)
  have key : ∀ es : List (κ × α), lookup k es = some v → replace k v es = es := by
    intro es
    induction es with
    | nil => exact fun _ => rfl
    | cons e es ih =>
      intro hes
      rw [lookup] at hes
      rw [replace]
      by_cases he : e.1 = k
      · rw [if_pos he, Option.some.injEq] at hes
        rw [if_pos he, ← hes]
      · rw [if_neg he] at hes
        rw [if_neg he, ih hes]
  obtain ⟨es, hnd⟩ := m
  rw [insert, dif_pos hk]
  congr
  exact key es h

/-! ### Totals -/

section Totals

variable (f : κ → α → ℕ)

/-- **The total** of a weight over the entries of a map. -/
def total (m : StorageMap κ α) : ℕ := (m.entries.map fun e => f e.1 e.2).sum

/-- What a key contributes to a total. -/
def weight (m : StorageMap κ α) (k : κ) : ℕ := (m.get? k).elim 0 (f k)

variable {f}

omit [DecidableEq κ] in
@[simp] theorem total_empty : (empty : StorageMap κ α).total f = 0 := rfl

theorem weight_of_get? {m : StorageMap κ α} {k : κ} {v : α} (h : m.get? k = some v) :
    m.weight f k = f k v := by
  rw [weight, h, Option.elim_some]

/-- A weight that the default value does not have can be read off the value of
the key. -/
theorem weight_eq [Inhabited α] (hf : ∀ k, f k default = 0) (m : StorageMap κ α) (k : κ) :
    m.weight f k = f k (m.get k) := by
  rw [weight, get]
  cases m.get? k with
  | none => exact (hf k).symm
  | some v => rfl

theorem sum_replace {k : κ} {es : List (κ × α)} (hnd : (es.map Prod.fst).Nodup) {v' : α}
    (h : lookup k es = some v') (v : α) :
    ((replace k v es).map fun e => f e.1 e.2).sum + f k v'
      = (es.map fun e => f e.1 e.2).sum + f k v := by
  induction es with
  | nil => simp [lookup] at h
  | cons e es ih =>
    rw [List.map_cons, List.nodup_cons] at hnd
    rw [lookup] at h
    rw [replace]
    by_cases he : e.1 = k
    · rw [if_pos he, Option.some.injEq] at h
      simp only [he, reduceIte, List.map_cons, List.sum_cons, h]
      omega
    · rw [if_neg he] at h
      simp only [if_neg he, List.map_cons, List.sum_cons]
      have := ih hnd.2 h
      omega

/-- **What a write does to a total**: the new contribution of the key replaces the
old one. -/
theorem total_insert (m : StorageMap κ α) (k : κ) (v : α) :
    (m.insert k v).total f + m.weight f k = m.total f + f k v := by
  unfold insert
  split
  · rename_i h
    obtain ⟨v', hv'⟩ := containsKey_iff_exists.mp (containsKey_iff_mem.mpr h)
    rw [weight_of_get? hv']
    exact sum_replace m.nodup hv' v
  · rename_i h
    simp only [weight, get?_eq_none_iff.mpr h, Option.elim_none, total, List.map_cons,
      List.sum_cons]
    omega

theorem sum_filter_ne {k : κ} {es : List (κ × α)} (hnd : (es.map Prod.fst).Nodup) :
    ((es.filter fun e => e.1 ≠ k).map fun e => f e.1 e.2).sum + (lookup k es).elim 0 (f k)
      = (es.map fun e => f e.1 e.2).sum := by
  induction es with
  | nil => simp [lookup]
  | cons e es ih =>
    rw [List.map_cons, List.nodup_cons] at hnd
    have hes := ih hnd.2
    rw [lookup]
    by_cases he : e.1 = k
    · have hnone : lookup k es = none := lookup_eq_none_iff.mpr (he ▸ hnd.1)
      rw [hnone, Option.elim_none] at hes
      rw [if_pos he, Option.elim_some, List.filter_cons_of_neg (by simpa using he), List.map_cons,
        List.sum_cons, he]
      omega
    · rw [if_neg he, List.filter_cons_of_pos (by simpa using he), List.map_cons, List.map_cons,
        List.sum_cons, List.sum_cons]
      omega

/-- **What a deletion does to a total**: the key no longer contributes. -/
theorem total_remove (m : StorageMap κ α) (k : κ) :
    (m.remove k).total f + m.weight f k = m.total f :=
  sum_filter_ne m.nodup

/-- What writing a new key does to a total. -/
theorem total_insert_new {m : StorageMap κ α} {k : κ} (h : m.get? k = none) (v : α) :
    (m.insert k v).total f = m.total f + f k v := by
  have := total_insert (f := f) m k v
  rwa [weight, h, Option.elim_none, add_zero] at this

/-- What overwriting a value does to a total. -/
theorem total_insert_old {m : StorageMap κ α} {k : κ} {v' : α} (h : m.get? k = some v') (v : α) :
    (m.insert k v).total f + f k v' = m.total f + f k v := by
  have := total_insert (f := f) m k v
  rwa [weight_of_get? h] at this

/-- What deleting a value does to a total. -/
theorem total_remove_old {m : StorageMap κ α} {k : κ} {v : α} (h : m.get? k = some v) :
    (m.remove k).total f + f k v = m.total f := by
  have := total_remove (f := f) m k
  rwa [weight_of_get? h] at this

/-- What a write does to a total that the default value does not add to. -/
theorem total_insert_get [Inhabited α] (hf : ∀ k, f k default = 0) (m : StorageMap κ α) (k : κ)
    (v : α) : (m.insert k v).total f + f k (m.get k) = m.total f + f k v := by
  rw [← weight_eq hf, total_insert]

/-- What a deletion does to such a total. -/
theorem total_remove_get [Inhabited α] (hf : ∀ k, f k default = 0) (m : StorageMap κ α) (k : κ) :
    (m.remove k).total f + f k (m.get k) = m.total f := by
  rw [← weight_eq hf, total_remove]

/-- What a key adds to such a total, is at most the total. -/
theorem le_total_get [Inhabited α] (hf : ∀ k, f k default = 0) (m : StorageMap κ α) (k : κ) :
    f k (m.get k) ≤ m.total f := by
  rw [← weight_eq hf, ← total_remove m k]
  exact Nat.le_add_left _ _

/-- One key contributes at most the total. -/
theorem weight_le_total (m : StorageMap κ α) (k : κ) : m.weight f k ≤ m.total f := by
  have := total_remove (f := f) m k
  omega

/-- Two different keys contribute at most the total together. -/
theorem weight_add_weight_le_total (m : StorageMap κ α) {k k' : κ} (h : k ≠ k') :
    m.weight f k + m.weight f k' ≤ m.total f := by
  have h1 := total_remove (f := f) m k
  have h2 := weight_le_total (f := f) (m.remove k) k'
  have h3 : (m.remove k).weight f k' = m.weight f k' := by
    rw [weight, get?_remove, if_neg h.symm, weight]
  omega

/-- A weight that the default value does not have is spread over the keys only. -/
theorem support_subset_keys [Inhabited α] (hf : ∀ k, f k default = 0)
    (m : StorageMap κ α) :
    Function.support (fun k => f k (m.get k)) ⊆ (m.keys.toFinset : Set κ) := by
  intro k hk
  rw [Finset.mem_coe, List.mem_toFinset]
  by_contra hnot
  refine hk ?_
  change f k (m.get k) = 0
  rw [← weight_eq hf, weight, get?_eq_none_iff.mpr hnot, Option.elim_none]

/-- **A total is a sum over all keys** as soon as the default value weighs
nothing. -/
theorem total_eq_finsum [Inhabited α] (hf : ∀ k, f k default = 0) (m : StorageMap κ α) :
    m.total f = ∑ᶠ k, f k (m.get k) := by
  have hmap : m.entries.map (fun e => f e.1 e.2) = m.keys.map fun k => f k (m.get k) := by
    rw [keys, List.map_map]
    refine List.map_congr_left fun e he => ?_
    rw [Function.comp_apply, get_of_get? (get?_eq_some_iff.mpr he)]
  rw [finsum_eq_sum_of_support_subset _ (support_subset_keys hf m), total, hmap]
  exact (List.sum_toFinset _ m.nodup).symm

end Totals

end StorageMap

end Pallet
