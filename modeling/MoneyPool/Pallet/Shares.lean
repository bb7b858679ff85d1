import Mathlib

/-!
# Shares of a pool

A pool has given out `m` shares, which are worth `t` together. For a deposit it mints shares in
proportion, and what shares are worth is found by dividing them by the price of the other
direction, shares for a unit; both are rounded down. `Pallet.minted` and `Pallet.worth` are the
two computations on natural numbers.

Rounding down the shares is on the side of the pool (`Pallet.minted_not_dilutes`). Rounding down
the divisor of `Pallet.worth` is not, and what a deposit does to the total decides on the rest:
`Pallet.worth_minted_le_iff` is about a pool that takes the shares for their total.
-/

namespace Pallet

variable {m t b d : ℕ}

/-- The shares minted for a deposit. -/
def minted (m t b : ℕ) : ℕ := b * m / t

/-- What shares are worth, by the rounded number of shares for a unit. -/
def worth (m t d : ℕ) : ℕ := d / (m / t)

/-! ### Minting -/

theorem minted_mul_le (m t b : ℕ) : minted m t b * t ≤ b * m := Nat.div_mul_le_self _ _

/-- **Minting does not dilute** the shares that are there, if the total grows by the deposit. -/
theorem minted_not_dilutes (m t b : ℕ) : t * (m + minted m t b) ≤ (t + b) * m := by
  have hle := minted_mul_le m t b
  rw [Nat.mul_add, Nat.add_mul, Nat.mul_comm t (minted m t b)]
  exact Nat.add_le_add_left hle _

/-- **As many shares as units** are minted if a unit is at most a share, and what it falls short of
one does not add up to one over the deposit. -/
theorem minted_eq_self_iff (ht : 0 < t) (hb : 0 < b) :
    minted m t b = b ↔ t ≤ m ∧ b * (m - t) < t := by
  rw [minted, Nat.div_eq_iff ht]
  constructor
  · rintro ⟨hle, hlt⟩
    have hprice : t ≤ m := Nat.le_of_mul_le_mul_left hle hb
    refine ⟨hprice, ?_⟩
    have hsplit : b * m = b * (m - t) + b * t := by
      rw [← Nat.mul_add, Nat.sub_add_cancel hprice]
    omega
  · rintro ⟨hprice, hlt⟩
    have hsplit : b * m = b * (m - t) + b * t := by
      rw [← Nat.mul_add, Nat.sub_add_cancel hprice]
    omega

/-! ### There and back -/

/-- Shares worth as many units are worth their number. -/
theorem worth_self (hm : 0 < m) (d : ℕ) : worth m m d = d := by
  rw [worth, Nat.div_self hm, Nat.div_one]

/-- A pool with fewer shares than units has no price. -/
theorem price_ne_zero_iff (ht : 0 < t) : m / t ≠ 0 ↔ t ≤ m := by
  rw [Ne, Nat.div_eq_zero_iff_lt ht, Nat.not_lt]

/-- **A deposit is worth no more than was paid**, in a pool that takes the shares for their total,
if it was given as many shares as units – and in no other case. -/
theorem worth_minted_le_iff (hm : 0 < m) (ht : 0 < t) :
    (m + minted m t b) / (m + b) ≠ 0 ∧ worth (m + minted m t b) (m + b) (minted m t b) ≤ b ↔
      minted m t b = b := by
  have hshares := minted_mul_le m t b
  generalize minted m t b = d at hshares ⊢
  have hpos : 0 < m + b := by omega
  constructor
  · rintro ⟨hprice, hle⟩
    have hbd : b ≤ d := by
      have := (price_ne_zero_iff hpos).mp hprice
      omega
    refine le_antisymm ?_ hbd
    obtain ⟨q, hq⟩ : ∃ q, q = (m + d) / (m + b) := ⟨_, rfl⟩
    have hqle : q * (m + b) ≤ m + d := hq ▸ Nat.div_mul_le_self _ _
    have hqpos : 0 < q := hq ▸ Nat.pos_of_ne_zero hprice
    have hdlt : d < q * (b + 1) := by
      rw [worth, ← hq] at hle
      have := Nat.lt_mul_div_succ d hqpos
      exact this.trans_le (Nat.mul_le_mul_left q (Nat.succ_le_succ hle))
    -- the price is one unit, or there is one share only
    rcases Nat.eq_or_lt_of_le hqpos with hone | hmore
    · rw [← hone] at hdlt
      omega
    · have hsingle : m = 1 := by
        have hexpand : q * m < m + q := by
          rw [Nat.mul_add] at hqle hdlt
          omega
        nlinarith
      rw [hsingle, Nat.mul_one] at hshares
      exact le_trans (Nat.le_mul_of_pos_right d ht) hshares
  · rintro rfl
    rw [worth_self hpos, Nat.div_self hpos]
    exact ⟨Nat.one_ne_zero, le_rfl⟩

end Pallet
