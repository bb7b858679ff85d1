import MoneyPool.Prices

/-!
# The mean of the reports

The aggregation adds up the reports of a token as prices add, in 64 bits, and divides by their
number. Anybody may report any price, so that the sum may come round: what is stored then is less
than the mean by the number of words that are lost, and may be less than every report
(`MoneyPool.price_is_mean_iff`).
-/

namespace MoneyPool

open Pallet NewOracle

/-! ### Means -/

/-- **A price is the mean** of some reports: the exact mean rounded down, between the smallest and
the largest of them. -/
structure NewOracle.IsMean (prices : List PriceInUSDT) (price : PriceInUSDT) : Prop where
  floor : price.toNat = exactSum prices / prices.length
  least : ∀ lo, (∀ p ∈ prices, lo ≤ p) → lo ≤ price
  greatest : ∀ hi, (∀ p ∈ prices, p ≤ hi) → price ≤ hi

section Words

variable {w : ℕ} {words : List (BitVec w)} {word : BitVec w}

theorem length_mul_le_exactSum (h : ∀ x ∈ words, word ≤ x) :
    words.length * word.toNat ≤ exactSum words := by
  have hall : ∀ n ∈ words.map BitVec.toNat, word.toNat ≤ n := by
    rintro _ hn
    obtain ⟨x, hx, rfl⟩ := List.mem_map.mp hn
    exact BitVec.le_def.mp (h x hx)
  have hle := List.card_nsmul_le_sum _ _ hall
  rwa [List.length_map, smul_eq_mul] at hle

theorem exactSum_le_length_mul (h : ∀ x ∈ words, x ≤ word) :
    exactSum words ≤ words.length * word.toNat := by
  have hall : ∀ n ∈ words.map BitVec.toNat, n ≤ word.toNat := by
    rintro _ hn
    obtain ⟨x, hx, rfl⟩ := List.mem_map.mp hn
    exact BitVec.le_def.mp (h x hx)
  have hle := List.sum_le_card_nsmul _ _ hall
  rwa [List.length_map, smul_eq_mul] at hle

end Words

/-- A sum that comes round loses its quotient: at least one for every `n` that is lost. -/
theorem mod_div_eq_iff {a m n : ℕ} (hn : 0 < n) (hnm : n ≤ m) : a % m / n = a / n ↔ a < m := by
  constructor
  · intro heq
    by_contra hge
    have hm : 0 < m := hn.trans_le hnm
    have hrest := Nat.mod_add_div a m
    -- a whole `m` is lost, and it has room for an `n`
    have hlost : m ≤ m * (a / m) :=
      Nat.le_mul_of_pos_right m (Nat.div_pos (Nat.not_lt.mp hge) hm)
    have hle : a % m + n ≤ a := by omega
    have hless : a % m / n + 1 ≤ a / n := by
      rw [← Nat.add_div_right _ hn]
      exact Nat.div_le_div_right hle
    omega
  · intro hlt
    rw [Nat.mod_eq_of_lt hlt]

/-- **The price that is worked out is the mean** exactly if the sum of the reports is a price. -/
theorem isMean_mean_iff {prices : List PriceInUSDT} (hne : prices ≠ [])
    (hcount : prices.length < 2 ^ 64) : IsMean prices (mean prices) ↔ exactSum prices < 2 ^ 64 := by
  have hpos : 0 < prices.length := List.length_pos_of_ne_nil hne
  have hmean : (mean prices).toNat = exactSum prices % 2 ^ 64 / prices.length := by
    rw [mean, BitVec.toNat_udiv, toNat_sum, BitVec.toNat_ofNat, Nat.mod_eq_of_lt hcount]
  have hfloor :
      (mean prices).toNat = exactSum prices / prices.length ↔ exactSum prices < 2 ^ 64 := by
    rw [hmean]
    exact mod_div_eq_iff hpos hcount.le
  constructor
  · intro h
    exact hfloor.mp h.floor
  · intro hfits
    have heq := hfloor.mpr hfits
    refine ⟨heq, fun lo hlo => ?_, fun hi hhi => ?_⟩
    · rw [BitVec.le_def, heq, Nat.le_div_iff_mul_le hpos, Nat.mul_comm]
      exact length_mul_le_exactSum hlo
    · rw [BitVec.le_def, heq]
      exact Nat.div_le_of_le_mul (exactSum_le_length_mul hhi)

/-! ### Runs -/

variable {AccountId : Type} [DecidableEq AccountId] [Inhabited AccountId]

/-- **The aggregated price is the mean of the reports**, after every run and for every token that
has any, if and only if their exact sum is a price and no token has more reports than a `usize`
counts. -/
theorem price_is_mean_iff {config : GenesisConfig AccountId} {s₀ s : RuntimeState AccountId}
    {steps : List (Step AccountId)} {height : BlockNumber} {token : StrBytes}
    (hgenesis : config.build = some s₀) (hrun : run next steps s₀ = some s)
    (hheight : height % aggregateInterval = 0) (hreported : reportsOf token (pending steps) ≠ []) :
    (∃ s' price, next (.onFinalize height) s = some s' ∧
      s'.oracle.currentPrice.get? token = some price ∧
        IsMean (reportsOf token (pending steps)) price) ↔
    exactSum (reportsOf token (pending steps)) < 2 ^ 64 ∧
      ∀ token', (reportsOf token' (pending steps)).length < 2 ^ 64 := by
  have hst := stacked_of_run hgenesis hrun
  have hprice : (s.oracle.finalized height).currentPrice.get? token =
      some (mean (reportsOf token (pending steps))) := by
    rw [hst.noneEmpty.currentPrice_finalized, hst.get, if_neg hreported]
  rw [next_onFinalize hheight hst, ← countable_iff (Nat.two_pow_pos 64)]
  constructor
  · rintro ⟨s', price, hnext, hget, hmean⟩
    split at hnext
    · rename_i hcount
      cases hnext
      cases hprice.symm.trans hget
      have hall := (countable_iff (Nat.two_pow_pos 64)).mp hcount
      exact ⟨(isMean_mean_iff hreported (hall token)).mp hmean, hcount⟩
    · cases hnext
  · rintro ⟨hsum, hcount⟩
    have hall := (countable_iff (Nat.two_pow_pos 64)).mp hcount
    exact ⟨_, _, if_pos hcount, hprice, (isMean_mean_iff hreported (hall token)).mpr hsum⟩

/-- The price of 90 and 120 is 105. -/
theorem price_is_mean_example : ∃ s s' price,
    run next [reportStep [] 90, reportStep [] 120] exampleState = some s ∧
      next (.onFinalize 5) s = some s' ∧ s'.oracle.currentPrice.get? [] = some price ∧
        IsMean [90, 120] price := by
  obtain ⟨s, hrun, -⟩ := exists_of_any (p := fun _ => True)
    (o := run next [reportStep [] 90, reportStep [] 120] exampleState) (by decide +kernel)
  have hreports : pending [reportStep [] 90, reportStep [] 120] = [([], 90), ([], 120)] := rfl
  have hcount : ∀ r ∈ pending [reportStep [] 90, reportStep [] 120],
      (reportsOf r.1 (pending [reportStep [] 90, reportStep [] 120])).length < 2 ^ 64 := by
    rw [hreports]
    decide
  have hiff := price_is_mean_iff exampleConfig_build hrun
    (show (5 : BlockNumber) % aggregateInterval = 0 by decide)
    (show reportsOf [] (pending [reportStep [] 90, reportStep [] 120]) ≠ [] by decide)
  obtain ⟨s', price, hnext, hget, hmean⟩ :=
    hiff.mpr ⟨by decide, (countable_iff (Nat.two_pow_pos 64)).mp hcount⟩
  exact ⟨s, s', price, hrun, hnext, hget, hmean⟩

/-- **Two large reports make a price of zero**: their sum is `2 ^ 64`. -/
theorem price_not_mean : ¬∀ (steps : List (Step ℕ)) s s' height token price,
    run next steps exampleState = some s → height % aggregateInterval = 0 →
    reportsOf token (pending steps) ≠ [] → next (.onFinalize height) s = some s' →
    s'.oracle.currentPrice.get? token = some price →
      IsMean (reportsOf token (pending steps)) price := by
  intro h
  obtain ⟨s, hrun, hany⟩ := exists_of_any
    (p := fun s => ((next (.onFinalize 5) s).any fun s' =>
      decide (s'.oracle.currentPrice.get? [] = some 0)) = true)
    (o := run next [reportStep [] (2 ^ 63), reportStep [] (2 ^ 63)] exampleState)
    (by decide +kernel)
  obtain ⟨s', hnext, hget⟩ := exists_of_any hany
  have hmean := h _ s s' 5 [] 0 hrun (by decide) (by decide) hnext hget
  exact absurd hmean.floor (by decide +kernel)

end MoneyPool
