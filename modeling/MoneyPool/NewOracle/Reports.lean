import MoneyPool.NewOracle.Model

/-!
# The aggregation of prices

What the hook at the end of a block makes of the stacked prices: for each token that has
any, their mean becomes the current price, and nothing is left stacked
(`MoneyPool.NewOracle.wp_onFinalize`). The loop walks over the keys the map had before, and
takes each out of it. A mean is a quotient by a length, and so the hook rests on it that no
token has an empty list (`MoneyPool.NewOracle.Store.NoneEmpty`).
-/

namespace MoneyPool

namespace NewOracle

open Pallet Pallet.Exec

variable {β : Build} {s : Store} {k k' : StrBytes}

/-! ### The mean -/

/-- **The mean of some prices**: their sum, as prices add, by their number. -/
def mean (prices : List PriceInUSDT) : PriceInUSDT :=
  prices.sum / BitVec.ofNat 64 prices.length

/-- A mean does not depend on the order of the prices. -/
theorem mean_perm {prices prices' : List PriceInUSDT} (h : prices.Perm prices') :
    mean prices = mean prices' := by
  rw [mean, mean, h.sum_eq, h.length_eq]

/-- Summing up goes through if no partial sum is in the way, and none is unless the whole sum
is too large. -/
theorem wp_foldPrices {Q : PriceInUSDT → Store → Prop} {E : DispatchError → Store → Prop}
    {P : Prop} (prices : List PriceInUSDT) (acc : PriceInUSDT) :
    wp (foldPrices prices acc : Prog β PriceInUSDT) Q E P s ↔
      (¬(β.sums = true → acc.toNat + exactSum prices < 2 ^ 64) → P) ∧
        ((β.sums = true → acc.toNat + exactSum prices < 2 ^ 64) → Q (acc + prices.sum) s) := by
  induction prices generalizing acc with
  | nil =>
    have hfits : β.sums = true → acc.toNat + exactSum ([] : List PriceInUSDT) < 2 ^ 64 :=
      fun _ => acc.isLt
    have hzero : acc + ([] : List PriceInUSDT).sum = acc := BitVec.add_zero acc
    rw [foldPrices, wp_pure, hzero, iff_true_intro hfits]
    simp only [not_true_eq_false, false_imp_iff, true_imp_iff, true_and]
  | cons price prices ih =>
    have hsum := exactSum_cons price prices
    -- the partial sum that is checked here is at most the whole one
    have hguard : (β.sums = true → acc.toNat + price.toNat < 2 ^ 64) ∧
        (β.sums = true → (acc + price).toNat + exactSum prices < 2 ^ 64) ↔
          (β.sums = true → acc.toNat + exactSum (price :: prices) < 2 ^ 64) := by
      rw [hsum, ← imp_and]
      refine imp_congr_right fun _ => ⟨fun ⟨hone, hrest⟩ => ?_, fun hall => ?_⟩
      · rw [BitVec.toNat_add_of_lt hone] at hrest
        omega
      · have hone : acc.toNat + price.toNat < 2 ^ 64 := by omega
        rw [BitVec.toNat_add_of_lt hone]
        exact ⟨hone, by omega⟩
    simp only [foldPrices, wp_bind, wp_add, ih]
    rw [guard_and, hguard, List.sum_cons, BitVec.add_assoc]

/-! ### One token -/

/-- **No token has an empty list** of stacked prices. -/
def Store.NoneEmpty (s : Store) : Prop := ∀ k, s.priceCandidates.get? k ≠ some []

/-- The prices of a token can be averaged: where sums are checked, their sum is a price, and
there are no more than a `usize` counts. -/
def Store.Fits (β : Build) (s : Store) (k : StrBytes) : Prop :=
  (β.sums = true → exactSum (s.priceCandidates.get k) < 2 ^ 64) ∧
    (s.priceCandidates.get k).length < 2 ^ 64

/-- **The storage after the turn of a token.** -/
def Store.aggregated (s : Store) (k : StrBytes) : Store :=
  { s with
    priceCandidates := s.priceCandidates.remove k
    currentPrice := s.currentPrice.insert k (mean (s.priceCandidates.get k)) }

/-- **The rule of one turn**, for a token that has prices. -/
theorem wp_aggregate {Q : Unit → Store → Prop} {E : DispatchError → Store → Prop} {P : Prop}
    (hne : s.priceCandidates.get k ≠ []) :
    wp (aggregate k : Prog β Unit) Q E P s ↔
      (¬s.Fits β k → P) ∧ (s.Fits β k → Q () (s.aggregated k)) := by
  have hzero : (0 : PriceInUSDT).toNat = 0 := rfl
  have hcount : (s.priceCandidates.get k).length < 2 ^ 64 →
      BitVec.ofNat 64 (s.priceCandidates.get k).length ≠ 0 := by
    intro hlt heq
    have hnat := congrArg BitVec.toNat heq
    rw [BitVec.toNat_ofNat, Nat.mod_eq_of_lt hlt] at hnat
    exact hne (List.length_eq_zero_iff.mp hnat)
  -- both ways of writing the price are the same
  have hwrite : ∀ price, ((s.currentPrice.containsKey k = true → Q () { s with
        priceCandidates := s.priceCandidates.remove k
        currentPrice := s.currentPrice.mutate k fun _ => price }) ∧
      (¬s.currentPrice.containsKey k = true → Q () { s with
        priceCandidates := s.priceCandidates.remove k
        currentPrice := s.currentPrice.insert k price })) ↔ Q () { s with
        priceCandidates := s.priceCandidates.remove k
        currentPrice := s.currentPrice.insert k price } := fun price =>
    ⟨fun h => (em _).elim h.1 h.2, fun h => ⟨fun _ => h, fun _ => h⟩⟩
  simp only [aggregate, wp_bind, wp_gets, wp_modify, wp_foldPrices, wp_unwrap_if, wp_div, wp_ite,
    hzero, zero_add, hwrite]
  rw [guard_and]
  refine and_congr Iff.rfl (imp_congr_right fun hfits => ?_)
  simp only [ne_eq, hcount hfits.2, not_false_iff, not_true_eq_false, false_imp_iff, true_imp_iff,
    true_and]
  rfl

/-! ### All tokens -/

/-- The turn of another token does not touch what a token has stacked. -/
theorem Store.get?_aggregated_of_ne (h : k' ≠ k) :
    (s.aggregated k).priceCandidates.get? k' = s.priceCandidates.get? k' := by
  rw [aggregated, StorageMap.get?_remove, if_neg h]

theorem Store.get_aggregated_of_ne (h : k' ≠ k) :
    (s.aggregated k).priceCandidates.get k' = s.priceCandidates.get k' := by
  rw [StorageMap.get, get?_aggregated_of_ne h, StorageMap.get]

/-- What is stacked after the turns of some tokens. -/
theorem Store.get?_foldl_aggregated (ks : List StrBytes) :
    (ks.foldl Store.aggregated s).priceCandidates.get? k =
      if k ∈ ks then none else s.priceCandidates.get? k := by
  induction ks generalizing s with
  | nil => rfl
  | cons k' ks ih =>
    rw [List.foldl_cons, ih]
    rcases eq_or_ne k k' with rfl | hne
    · rw [if_pos (List.mem_cons_self ..), aggregated, StorageMap.get?_remove, if_pos rfl, ite_self]
    · simp only [List.mem_cons, hne, false_or, get?_aggregated_of_ne hne]

/-- **The prices** after the turns of some tokens. -/
theorem Store.currentPrice_foldl_aggregated {ks : List StrBytes} (hnodup : ks.Nodup) :
    (ks.foldl Store.aggregated s).currentPrice.get? k =
      if k ∈ ks then some (mean (s.priceCandidates.get k)) else s.currentPrice.get? k := by
  induction ks generalizing s with
  | nil => rfl
  | cons k' ks ih =>
    obtain ⟨hnot, hnodup'⟩ := List.nodup_cons.mp hnodup
    rw [List.foldl_cons, ih hnodup']
    rcases eq_or_ne k k' with rfl | hne
    · rw [if_neg hnot, if_pos (List.mem_cons_self ..), aggregated, StorageMap.get?_insert,
        if_pos rfl]
    · rw [get_aggregated_of_ne hne, aggregated, StorageMap.get?_insert, if_neg hne]
      simp only [List.mem_cons, hne, false_or]

/-- **The rule of the loop**: it goes through exactly if the prices of every token can be
averaged. -/
theorem wp_forEach_aggregate {Q : Unit → Store → Prop} {E : DispatchError → Store → Prop}
    {P : Prop} {ks : List StrBytes} (hnodup : ks.Nodup)
    (hne : ∀ k ∈ ks, s.priceCandidates.get k ≠ []) :
    wp (forEach ks aggregate : Prog β Unit) Q E P s ↔
      (¬(∀ k ∈ ks, s.Fits β k) → P) ∧
        ((∀ k ∈ ks, s.Fits β k) → Q () (ks.foldl Store.aggregated s)) := by
  induction ks generalizing s with
  | nil =>
    simp
  | cons k ks ih =>
    obtain ⟨hnot, hnodup'⟩ := List.nodup_cons.mp hnodup
    obtain ⟨hfirst, hrest⟩ := List.forall_mem_cons.mp hne
    have hget : ∀ k' ∈ ks, (s.aggregated k).priceCandidates.get k' = s.priceCandidates.get k' :=
      fun k' hk' => Store.get_aggregated_of_ne fun heq => hnot (heq ▸ hk')
    have hfits : (∀ k' ∈ ks, (s.aggregated k).Fits β k') ↔ ∀ k' ∈ ks, s.Fits β k' := by
      refine forall₂_congr fun k' hk' => ?_
      rw [Store.Fits, hget k' hk', Store.Fits]
    have hne' : ∀ k' ∈ ks, (s.aggregated k).priceCandidates.get k' ≠ [] := by
      intro k' hk'
      rw [hget k' hk']
      exact hrest k' hk'
    rw [wp_forEach_cons, wp_aggregate hfirst, ih hnodup' hne', hfits, guard_and,
      List.forall_mem_cons, List.foldl_cons]

/-! ### The hook -/

/-- The storage after an aggregation. -/
def Store.finalized (s : Store) (bn : BlockNumber) : Store :=
  { s.priceCandidates.keys.foldl Store.aggregated s with
    nextAggregateAt := bn + aggregateInterval }

/-- A token has a key exactly if something is stacked for it. -/
theorem Store.NoneEmpty.mem_keys_iff (h : s.NoneEmpty) :
    k ∈ s.priceCandidates.keys ↔ s.priceCandidates.get k ≠ [] := by
  rw [← StorageMap.containsKey_iff_mem]
  constructor
  · intro hkey hnil
    exact h k (hnil ▸ StorageMap.get?_of_containsKey hkey)
  · intro hne
    by_contra hkey
    exact hne (StorageMap.get_of_not_containsKey hkey)

/-- An aggregation leaves nothing stacked. -/
theorem Store.priceCandidates_finalized (s : Store) (bn : BlockNumber) :
    (s.finalized bn).priceCandidates = .empty := by
  refine StorageMap.eq_empty_of_get? fun k => ?_
  change (s.priceCandidates.keys.foldl Store.aggregated s).priceCandidates.get? k = none
  rw [get?_foldl_aggregated]
  split
  · rfl
  · rename_i hnot
    exact StorageMap.get?_eq_none_iff.mpr hnot

/-- **The prices after an aggregation**: the means of what was stacked, and the old ones for
the tokens that had nothing. -/
theorem Store.NoneEmpty.currentPrice_finalized (h : s.NoneEmpty) (bn : BlockNumber)
    (k : StrBytes) : (s.finalized bn).currentPrice.get? k =
      if s.priceCandidates.get k = [] then s.currentPrice.get? k
      else some (mean (s.priceCandidates.get k)) := by
  change (s.priceCandidates.keys.foldl Store.aggregated s).currentPrice.get? k = _
  rw [currentPrice_foldl_aggregated s.priceCandidates.nodup_keys]
  by_cases hnil : s.priceCandidates.get k = []
  · rw [if_neg fun hmem => h.mem_keys_iff.mp hmem hnil, if_pos hnil]
  · rw [if_pos (h.mem_keys_iff.mpr hnil), if_neg hnil]

/-- **The rule of the hook** at an aggregating block. -/
theorem wp_onFinalize {bn : BlockNumber} {Q : Unit → Store → Prop}
    {E : DispatchError → Store → Prop} {P : Prop} (hbn : bn % aggregateInterval = 0)
    (h : s.NoneEmpty) :
    wp (onFinalize bn : Prog β Unit) Q E P s ↔
      (¬((∀ k ∈ s.priceCandidates.keys, s.Fits β k) ∧
          (β.sums = true → bn.toNat + aggregateInterval.toNat < 2 ^ 32)) → P) ∧
        ((∀ k ∈ s.priceCandidates.keys, s.Fits β k) ∧
            (β.sums = true → bn.toNat + aggregateInterval.toNat < 2 ^ 32) →
          Q () (s.finalized bn)) := by
  have hne : ∀ k ∈ s.priceCandidates.keys, s.priceCandidates.get k ≠ [] :=
    fun k hk => h.mem_keys_iff.mp hk
  rw [onFinalize, if_pos hbn]
  simp only [wp_bind, wp_gets, wp_forEach_aggregate s.priceCandidates.nodup_keys hne, wp_add,
    wp_modify]
  rw [guard_and]
  rfl

/-- At the other blocks the hook does nothing. -/
theorem onFinalize_of_ne {bn : BlockNumber} (hbn : bn % aggregateInterval ≠ 0) :
    (onFinalize bn : Prog β Unit) s = .ok () s := by
  rw [onFinalize, if_neg hbn]
  rfl

end NewOracle

end MoneyPool
