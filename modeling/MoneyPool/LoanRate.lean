import MoneyPool.DepositLoan.Accrual
import MoneyPool.Interest

/-!
# The rate of the loans

The rate that the accrual works out from the utilisation `L / (C + 2 L)` of the pool, with `C` the
cash and `L` the total of the loans. Loans count twice in the divisor, so that the utilisation
never exceeds a half: of the three branches of the code only the first is ever taken
(`MoneyPool.DepositLoan.currentRate_ok`), and the rate is `MoneyPool.flatRate`, which is monotone
(`MoneyPool.rate_moves`) and leaves the published curve at `0.4` (`MoneyPool.rate_on_curve_iff`).
-/

namespace MoneyPool

open Pallet Pallet.Exec DepositLoan RuntimeState

/-! ### The rate in numbers -/

/-- The utilisation of a pool with eight decimal places. -/
def utilizationRate (cash totalLoan : ℕ) : ℕ := totalLoan * 10 ^ 8 / (cash + 2 * totalLoan)

/-- The rate at the utilisation of a pool, in the first of the three branches. -/
def flatRate (cash totalLoan : ℕ) : ℕ := (utilizationRate cash totalLoan + 5 * 10 ^ 7) / 10

section Numbers

variable {cash cash' totalLoan totalLoan' : ℕ}

/-- **The utilisation is at most a half**: the loans are counted twice. -/
theorem utilizationRate_le (cash totalLoan : ℕ) : utilizationRate cash totalLoan ≤ 5 * 10 ^ 7 := by
  refine Nat.div_le_of_le_mul ?_
  calc totalLoan * 10 ^ 8 = 2 * totalLoan * (5 * 10 ^ 7) := by ring
    _ ≤ (cash + 2 * totalLoan) * (5 * 10 ^ 7) := Nat.mul_le_mul_right _ (Nat.le_add_left ..)

theorem utilizationRate_anti (h : cash ≤ cash') (hpos : 0 < cash + 2 * totalLoan) :
    utilizationRate cash' totalLoan ≤ utilizationRate cash totalLoan :=
  Nat.div_le_div_left (Nat.add_le_add_right h _) hpos

/-- **The utilisation grows with the loans**, although what it is measured against grows too. -/
theorem utilizationRate_mono (h : totalLoan ≤ totalLoan') (hpos : 0 < cash + 2 * totalLoan) :
    utilizationRate cash totalLoan ≤ utilizationRate cash totalLoan' := by
  have hpos' : 0 < cash + 2 * totalLoan' := by omega
  rcases Nat.eq_zero_or_pos totalLoan with rfl | hloan
  · rw [utilizationRate, Nat.zero_mul, Nat.zero_div]
    exact Nat.zero_le _
  rw [utilizationRate, utilizationRate, Nat.le_div_iff_mul_le hpos']
  have hfloor := Nat.div_mul_le_self (totalLoan * 10 ^ 8) (cash + 2 * totalLoan)
  generalize totalLoan * 10 ^ 8 / (cash + 2 * totalLoan) = q at hfloor ⊢
  -- the bound of the smaller total, times the larger one
  refine Nat.le_of_mul_le_mul_left ?_ hloan
  calc totalLoan * (q * (cash + 2 * totalLoan'))
      = q * cash * totalLoan + 2 * q * totalLoan * totalLoan' := by ring
    _ ≤ q * cash * totalLoan' + 2 * q * totalLoan * totalLoan' :=
        Nat.add_le_add_right (Nat.mul_le_mul_left _ h) _
    _ = q * (cash + 2 * totalLoan) * totalLoan' := by ring
    _ ≤ totalLoan * 10 ^ 8 * totalLoan' := Nat.mul_le_mul_right _ hfloor
    _ = totalLoan * (totalLoan' * 10 ^ 8) := by ring

theorem flatRate_mem : 5000000 ≤ flatRate cash totalLoan ∧ flatRate cash totalLoan ≤ 10000000 := by
  have hle := utilizationRate_le cash totalLoan
  unfold flatRate
  omega

/-- The rate of two utilisations compares as they do. -/
theorem flatRate_le (h : utilizationRate cash totalLoan ≤ utilizationRate cash' totalLoan') :
    flatRate cash totalLoan ≤ flatRate cash' totalLoan' :=
  Nat.div_le_div_right (Nat.add_le_add_right h _)

/-- The rate rounds once. -/
theorem flatRate_eq : flatRate cash totalLoan =
    totalLoan * 10 ^ 7 / (cash + 2 * totalLoan) + 5000000 := by
  have hten : utilizationRate cash totalLoan / 10 =
      totalLoan * 10 ^ 7 / (cash + 2 * totalLoan) := by
    rw [utilizationRate, Nat.div_div_eq_div_mul, pow_succ (10 : ℕ) 7, ← Nat.mul_assoc,
      Nat.mul_div_mul_right _ _ (by decide)]
  rw [flatRate, ← hten]
  omega

end Numbers

/-! ### The published curve -/

/-- **The curve** of the documentation. -/
def curve (x : ℚ) : ℚ :=
  if x < 4 / 10 then x / 10 + 5 / 100
  else if x < 8 / 10 then 2 * x / 10 + 1 / 100
  else 3 * x ^ 6 / 10 + x ^ 3 / 10 + 6 / 100

/-- A rate with eight decimal places is the rate of the curve, up to one unit. -/
def OnCurve (rate : ℕ) (x : ℚ) : Prop := |(rate : ℚ) - 10 ^ 8 * curve x| ≤ 1

section Curve

variable {cash totalLoan : ℕ}

/-- Twice a number of which the quotient is at least `k` fits under the quotient and `k` and one
more, if the number is at most half a divisor over `k` or just one. -/
theorem two_mul_le_div_iff {a n k : ℕ} (hn : 0 < n) (hk : k * n ≤ a) :
    2 * a ≤ (a / n + k + 1) * n ↔ 2 * a ≤ (2 * k + 1) * n ∨ a = (k + 1) * n := by
  have hq : k ≤ a / n := (Nat.le_div_iff_mul_le hn).mpr hk
  have hsum := Nat.div_add_mod a n
  have hrest := Nat.mod_lt a hn
  obtain ⟨d, hd⟩ := Nat.exists_eq_add_of_le hq
  rw [hd] at hsum ⊢
  -- what is over `k` divisors is `d` of them and the rest
  have ha : a = k * n + d * n + a % n := by
    rw [← Nat.add_mul, Nat.mul_comm (k + d)]
    exact hsum.symm
  have hleft : (k + d + k + 1) * n = 2 * (k * n) + d * n + n := by ring
  have hright : (2 * k + 1) * n = 2 * (k * n) + n := by ring
  have hone : (k + 1) * n = k * n + n := by ring
  rw [hleft, hright, hone]
  rcases d with _ | _ | d
  · omega
  · omega
  · have hmore : (d + 1 + 1) * n = d * n + 2 * n := by ring
    rw [hmore] at ha ⊢
    omega

/-- The utilisations over `0.4` at which one unit makes up for the difference, in units of the
rate before it is rounded. -/
theorem half_unit_iff {pool : ℕ} :
    2 * (totalLoan * 10 ^ 7) ≤ (2 * 4000000 + 1) * pool ∨
        totalLoan * 10 ^ 7 = (4000000 + 1) * pool ↔
      10 ^ 8 * totalLoan ≤ 40000005 * pool ∨ 10 ^ 8 * totalLoan = 40000010 * pool := by
  refine or_congr ?_ ?_
  · constructor <;> intro h <;> linarith only [h]
  · constructor <;> intro h <;> linarith only [h]

/-- **The rate is on the curve** up to a utilisation of `0.4`, and as long after that as one unit
makes up for the difference. -/
theorem onCurve_flatRate_iff (hpos : 0 < cash + 2 * totalLoan) :
    OnCurve (flatRate cash totalLoan) (totalLoan / (cash + 2 * totalLoan)) ↔
      10 ^ 8 * totalLoan ≤ 40000005 * (cash + 2 * totalLoan) ∨
        10 ^ 8 * totalLoan = 40000010 * (cash + 2 * totalLoan) := by
  have hloans : 2 * totalLoan ≤ cash + 2 * totalLoan := Nat.le_add_left ..
  have hcast : ((cash : ℚ) + 2 * totalLoan) = ((cash + 2 * totalLoan : ℕ) : ℚ) := by push_cast; ring
  rw [OnCurve, flatRate_eq, hcast]
  generalize cash + 2 * totalLoan = pool at hpos hloans ⊢
  have hposq : (0 : ℚ) < pool := Nat.cast_pos.mpr hpos
  have hfloor := Nat.div_mul_le_self (totalLoan * 10 ^ 7) pool
  have hceil := Nat.lt_div_mul_add hpos (a := totalLoan * 10 ^ 7)
  have hexact := two_mul_le_div_iff (a := totalLoan * 10 ^ 7) (k := 4000000) hpos
  generalize totalLoan * 10 ^ 7 / pool = q at hfloor hceil hexact ⊢
  have hfloorq : (q : ℚ) ≤ 10 ^ 7 * (totalLoan / pool) := by
    rw [← mul_div_assoc, le_div_iff₀ hposq]
    exact_mod_cast (Nat.mul_comm (10 ^ 7) totalLoan) ▸ hfloor
  have hceilq : 10 ^ 7 * ((totalLoan : ℚ) / pool) ≤ q + 1 := by
    rw [← mul_div_assoc, div_le_iff₀ hposq]
    have hle : 10 ^ 7 * totalLoan ≤ (q + 1) * pool := by
      rw [Nat.add_mul, Nat.one_mul, Nat.mul_comm]
      exact hceil.le
    exact_mod_cast hle
  rw [abs_le]
  rw [Nat.cast_add, Nat.cast_ofNat]
  rcases Nat.lt_or_ge (10 * totalLoan) (4 * pool) with hlow | hhigh
  · -- the first piece of the curve is the rate before it is rounded
    have hx : (totalLoan : ℚ) / pool < 4 / 10 := by
      rw [div_lt_div_iff₀ hposq (by norm_num)]
      exact_mod_cast (Nat.mul_comm totalLoan 10) ▸ hlow
    rw [curve, if_pos hx]
    refine iff_of_true ⟨?_, ?_⟩ (Or.inl (by omega))
    · linarith only [hceilq]
    · linarith only [hfloorq]
  · have hx : ¬(totalLoan : ℚ) / pool < 4 / 10 := by
      rw [not_lt, div_le_div_iff₀ (by norm_num) hposq]
      exact_mod_cast (Nat.mul_comm totalLoan 10) ▸ hhigh
    have hx' : (totalLoan : ℚ) / pool < 8 / 10 := by
      rw [div_lt_div_iff₀ hposq (by norm_num)]
      have hlt : totalLoan * 10 < 8 * pool := by omega
      exact_mod_cast hlt
    rw [curve, if_neg hx, if_pos hx']
    have hexact' := hexact (by omega)
    have hdouble : (2 : ℚ) * (totalLoan * 10 ^ 7) ≤ (q + 4000000 + 1) * pool ↔
        2 * (10 ^ 7 * ((totalLoan : ℚ) / pool)) ≤ q + 4000000 + 1 := by
      have heq : 2 * (10 ^ 7 * ((totalLoan : ℚ) / pool)) = 2 * (totalLoan * 10 ^ 7) / pool := by
        ring
      rw [heq, div_le_iff₀ hposq]
    rw [← half_unit_iff, ← hexact']
    constructor
    · rintro ⟨hlow, -⟩
      have hle := hdouble.mpr (by linarith only [hlow])
      exact_mod_cast hle
    · intro hle
      have hle' := hdouble.mp (by exact_mod_cast hle)
      exact ⟨by linarith only [hle'], by linarith only [hfloorq, not_lt.mp hx]⟩

end Curve

/-! ### The rate of the code -/

variable {AccountId : Type} [DecidableEq AccountId] {β : Build}

namespace RuntimeState

variable (s : RuntimeState AccountId)

/-- **What a rate needs**: something in the pool, and figures that fit in a balance. -/
structure RateFits : Prop where
  pool : 0 < s.cash.toNat + 2 * s.saving.totalLoan.toNat
  total : s.saving.totalLoan.toNat * 10 ^ 8 < 2 ^ 128
  whole : s.cash.toNat + 2 * s.saving.totalLoan.toNat < 2 ^ 128

/-- What the accrual reads, with the rate of the first branch. -/
def poolRate : PoolRate AccountId where
  collectionAssetId := s.saving.collectionAssetId
  collectionAccountId := s.saving.collectionAccountId
  currentTime := s.now
  totalLoan := s.saving.totalLoan
  totalDeposit := s.cash + s.saving.totalLoan
  loanInterestRateCurrent :=
    (s.saving.totalLoan * 100000000 / (s.cash + s.saving.totalLoan + s.saving.totalLoan) +
      50000000) / 10

end RuntimeState

variable {s s' : RuntimeState AccountId}

/-- The words of a pool that fits. -/
theorem RuntimeState.RateFits.toNat_pool (h : s.RateFits) :
    (s.cash + s.saving.totalLoan + s.saving.totalLoan).toNat =
      s.cash.toNat + 2 * s.saving.totalLoan.toNat := by
  have hwhole := h.whole
  rw [BitVec.toNat_add, BitVec.toNat_add]
  omega

theorem RuntimeState.RateFits.toNat_utilization (h : s.RateFits) :
    (s.saving.totalLoan * 100000000 /
        (s.cash + s.saving.totalLoan + s.saving.totalLoan)).toNat =
      utilizationRate s.cash.toNat s.saving.totalLoan.toNat := by
  have hprec : (100000000 : Balance).toNat = 10 ^ 8 := rfl
  rw [BitVec.toNat_udiv, h.toNat_pool, BitVec.toNat_mul, hprec, Nat.mod_eq_of_lt h.total]
  rfl

/-- **The rate is the flat one.** -/
theorem RuntimeState.RateFits.toNat_rate (h : s.RateFits) :
    s.poolRate.loanInterestRateCurrent.toNat =
      flatRate s.cash.toNat s.saving.totalLoan.toNat := by
  have hle := utilizationRate_le s.cash.toNat s.saving.totalLoan.toNat
  have hbase : (50000000 : Balance).toNat = 5 * 10 ^ 7 := rfl
  have hten : (10 : Balance).toNat = 10 := rfl
  rw [poolRate, BitVec.toNat_udiv, BitVec.toNat_add, h.toNat_utilization, hbase, hten,
    Nat.mod_eq_of_lt (by omega)]
  rfl

omit [DecidableEq AccountId] in
/-- The first of the three branches. -/
theorem DepositLoan.loanInterestRate_flat {x : BitVec 128} (hx : x < 400000000) :
    wp (loanInterestRate x : Prog β AccountId (BitVec 128))
      (fun r t => r = (x + 50000000) / 10 ∧ t = s) (fun _ _ => False) False s := by
  have hten : (10 : BitVec 128) ≠ 0 := by decide
  have hlt : x.toNat < 400000000 := BitVec.lt_def.mp hx
  have hbase : (50000000 : BitVec 128).toNat = 50000000 := rfl
  have hfits : x.toNat + (50000000 : BitVec 128).toNat < 2 ^ 128 := by
    rw [hbase]
    omega
  rw [loanInterestRate, if_pos hx]
  simp only [wp_bind, wp_add, wp_div]
  exact ⟨fun hno => hno fun _ => hfits, fun _ => ⟨fun hno => hno hten, fun _ => ⟨trivial, trivial⟩⟩⟩

/-- **The rate can be worked out**, in the first branch and in every build. -/
theorem DepositLoan.currentRate_ok (h : s.RateFits) :
    (currentRate : Prog β AccountId (Option (PoolRate AccountId))) s =
      .ok (some s.poolRate) (s.withSaving fun t => { t with bonusTime := s.now }) := by
  have hle := utilizationRate_le s.cash.toNat s.saving.totalLoan.toNat
  have hwhole := h.whole
  have hutil := h.toNat_utilization
  have hpool : s.cash + s.saving.totalLoan + s.saving.totalLoan ≠ 0 := by
    rw [ne_zero_iff, h.toNat_pool]
    exact h.pool.ne'
  have hdeposit : s.cash.toNat + s.saving.totalLoan.toNat < 2 ^ 128 := by omega
  have hsum : (s.cash + s.saving.totalLoan).toNat + s.saving.totalLoan.toNat < 2 ^ 128 := by
    rw [BitVec.toNat_add, Nat.mod_eq_of_lt hdeposit]
    omega
  -- half of the utilisation is attainable, the limit of the first branch is at four
  have hfirst : s.saving.totalLoan * 100000000 /
      (s.cash + s.saving.totalLoan + s.saving.totalLoan) < 400000000 := by
    have hlimit : (400000000 : Balance).toNat = 400000000 := rfl
    rw [BitVec.lt_def, hutil, hlimit]
    omega
  have hwp : wp (currentRate : Prog β AccountId (Option (PoolRate AccountId)))
      (fun r t => r = some s.poolRate ∧ t = s.withSaving fun t => { t with bonusTime := s.now })
      (fun _ _ => False) False s := by
    simp only [currentRate, wp_bind, wp_gets, wp_add, wp_modify, wp_ite, wp_pure,
      wp_unwrap_checkedMul, wp_div]
    refine ⟨fun hno => hno fun _ => hdeposit, fun _ => ⟨fun hno => hno fun _ => hsum, fun _ =>
      ⟨fun _ => ⟨fun hno => hno h.total, fun _ => ⟨fun hno => hno hpool, fun _ => ?_⟩⟩,
        fun hno => absurd hpool hno⟩⟩⟩
    refine wp_mono (loanInterestRate_flat hfirst) ?_ (fun _ _ h => h) id
    rintro _ _ ⟨rfl, rfl⟩
    exact ⟨rfl, rfl⟩
  obtain ⟨r, t, hrun, rfl, rfl⟩ := exists_ok_of_wp hwp
  exact hrun

/-! ### The curve and the code -/

/-- **The rate moves the right way.** Every rate that can be worked out is between five and ten
percent; it does not fall when only the loans grow, and does not rise when only the cash does. -/
theorem rate_moves (h : s.RateFits) (h' : s'.RateFits) : ∃ r r' t t',
    (currentRate : Prog β AccountId (Option (PoolRate AccountId))) s = .ok (some r) t ∧
    (currentRate : Prog β AccountId (Option (PoolRate AccountId))) s' = .ok (some r') t' ∧
    5000000 ≤ r.loanInterestRateCurrent.toNat ∧ r.loanInterestRateCurrent.toNat ≤ 10000000 ∧
    (s.cash = s'.cash → s.saving.totalLoan ≤ s'.saving.totalLoan →
      r.loanInterestRateCurrent ≤ r'.loanInterestRateCurrent) ∧
    (s.saving.totalLoan = s'.saving.totalLoan → s.cash ≤ s'.cash →
      r'.loanInterestRateCurrent ≤ r.loanInterestRateCurrent) := by
  refine ⟨s.poolRate, s'.poolRate, _, _, currentRate_ok h, currentRate_ok h', ?_⟩
  rw [BitVec.le_def, BitVec.le_def, BitVec.le_def, BitVec.le_def, h.toNat_rate, h'.toNat_rate]
  refine ⟨flatRate_mem.1, flatRate_mem.2, fun hcash hloan => ?_, fun hloan hcash => ?_⟩
  · rw [← hcash]
    exact flatRate_le (utilizationRate_mono hloan h.pool)
  · rw [← hloan]
    exact flatRate_le (utilizationRate_anti hcash h.pool)

/-- A loan of ten thousand and one of twenty thousand, out of the same pool. -/
theorem rate_moves_example : ∃ r r' t t',
    (currentRate : Prog .debug ℕ (Option (PoolRate ℕ)))
      (exampleState.withSaving fun t => { t with totalLoan := 10000 }) = .ok (some r) t ∧
    (currentRate : Prog .debug ℕ (Option (PoolRate ℕ)))
      (exampleState.withSaving fun t => { t with totalLoan := 20000 }) = .ok (some r') t' ∧
    r.loanInterestRateCurrent ≤ r'.loanInterestRateCurrent := by
  have h : (exampleState.withSaving fun t => { t with totalLoan := 10000 }).RateFits :=
    ⟨by decide +kernel, by decide +kernel, by decide +kernel⟩
  have h' : (exampleState.withSaving fun t => { t with totalLoan := 20000 }).RateFits :=
    ⟨by decide +kernel, by decide +kernel, by decide +kernel⟩
  obtain ⟨r, r', t, t', hrun, hrun', -, -, hmono, -⟩ := rate_moves (β := .debug) h h'
  exact ⟨r, r', t, t', hrun, hrun', hmono rfl (by decide +kernel)⟩

/-- **The rate follows the published curve** if and only if the utilisation is at most `0.4`,
apart from what one unit makes up for: the code takes the first piece beyond its end. -/
theorem rate_on_curve_iff (h : s.RateFits) :
    (∃ r t, (currentRate : Prog β AccountId (Option (PoolRate AccountId))) s = .ok (some r) t ∧
      OnCurve r.loanInterestRateCurrent.toNat
        (s.saving.totalLoan.toNat / (s.cash.toNat + 2 * s.saving.totalLoan.toNat))) ↔
    10 ^ 8 * s.saving.totalLoan.toNat ≤
        40000005 * (s.cash.toNat + 2 * s.saving.totalLoan.toNat) ∨
      10 ^ 8 * s.saving.totalLoan.toNat =
        40000010 * (s.cash.toNat + 2 * s.saving.totalLoan.toNat) := by
  rw [← onCurve_flatRate_iff h.pool, ← h.toNat_rate]
  constructor
  · rintro ⟨r, t, hrun, hcurve⟩
    cases (currentRate_ok h).symm.trans hrun
    exact hcurve
  · intro hcurve
    exact ⟨s.poolRate, _, currentRate_ok h, hcurve⟩

/-- A loan of ten thousand out of a large pool. -/
theorem rate_on_curve_example : ∃ r t,
    (currentRate : Prog .debug ℕ (Option (PoolRate ℕ)))
      (exampleState.withSaving fun t => { t with totalLoan := 10000 }) = .ok (some r) t ∧
    OnCurve r.loanInterestRateCurrent.toNat (10000 / (10 ^ 30 + 2 * 10000)) := by
  have hiff := rate_on_curve_iff (β := .debug)
    (s := exampleState.withSaving fun t => { t with totalLoan := 10000 })
    ⟨by decide +kernel, by decide +kernel, by decide +kernel⟩
  obtain ⟨r, t, hrun, hcurve⟩ := hiff.mpr (by decide +kernel)
  have hcash : (exampleState.withSaving fun t => { t with totalLoan := 10000 }).cash.toNat =
      10 ^ 30 := by decide +kernel
  have hloan : (10000 : Balance).toNat = 10000 := rfl
  rw [hcash, withSaving, hloan] at hcurve
  exact ⟨r, t, hrun, by exact_mod_cast hcurve⟩

/-- **A pool that is nearly empty is off the curve**: after a loan of nine tenths of the cash the
utilisation is `9 / 19`. -/
theorem rate_not_on_curve : ¬∀ s : RuntimeState ℕ, Reachable next exampleState s → s.RateFits →
    ∃ r t, (currentRate : Prog .debug ℕ (Option (PoolRate ℕ))) s = .ok (some r) t ∧
      OnCurve r.loanInterestRateCurrent.toNat
        (s.saving.totalLoan.toNat / (s.cash.toNat + 2 * s.saving.totalLoan.toNat)) := by
  intro h
  obtain ⟨s, hrun, hcash, hloan⟩ := exists_of_any
    (p := fun s => s.cash.toNat = 10 ^ 29 ∧ s.saving.totalLoan.toNat = 9 * 10 ^ 29)
    (o := run next [signedCall 5 (.applyLoan (10 ^ 29) (9 * 10 ^ 29))] exampleState)
    (by decide +kernel)
  have hfits : s.RateFits := by
    refine ⟨?_, ?_, ?_⟩
    · rw [hcash]
      norm_num
    · rw [hloan]
      norm_num
    · rw [hcash, hloan]
      norm_num
  obtain ⟨r, t, hrate, hcurve⟩ := h s (reachable_of_run hrun) hfits
  cases (currentRate_ok hfits).symm.trans hrate
  rw [hfits.toNat_rate, onCurve_flatRate_iff hfits.pool, hcash, hloan] at hcurve
  exact absurd hcurve (by norm_num)

end MoneyPool
