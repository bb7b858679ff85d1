import Mathlib

/-!
# Flows between accounts

A payment is taken from one account and given to another. `Pallet.flow` is what it does to all
accounts at once, as a function on the accounts with values in any commutative group, so that
several payments together do what the sum of their flows does – whichever accounts they name, the
same one twice included.

Flows that meet compose (`Pallet.flow_trans`), and payments undo each other exactly if their sum
is zero: `Pallet.flow_eq_zero_iff` and `Pallet.flow_add_flow_eq_zero_iff` say when that is so.
-/

namespace Pallet

variable {α G : Type} [DecidableEq α] [AddCommGroup G] {x y z : α} {m n : G}

/-- **The flow** of an amount from one account to another. -/
def flow (x y : α) (n : G) : α → G := Pi.single y n - Pi.single x n

/-! ### Reading a flow -/

theorem flow_apply (x y w : α) (n : G) :
    flow x y n w = (if w = y then n else 0) - if w = x then n else 0 := by
  rw [flow, Pi.sub_apply, Pi.single_apply, Pi.single_apply]

theorem flow_from (h : x ≠ y) : flow x y n x = -n := by
  rw [flow_apply, if_neg h, if_pos rfl, zero_sub]

theorem flow_to (h : x ≠ y) : flow x y n y = n := by
  rw [flow_apply, if_pos rfl, if_neg h.symm, sub_zero]

theorem flow_of_ne {w : α} (hx : w ≠ x) (hy : w ≠ y) : flow x y n w = 0 := by
  rw [flow_apply, if_neg hy, if_neg hx, sub_zero]

/-! ### Flows together -/

@[simp] theorem flow_self (x : α) (n : G) : flow x x n = 0 := sub_self _

@[simp] theorem flow_zero (x y : α) : flow x y (0 : G) = 0 := by
  rw [flow, Pi.single_zero, Pi.single_zero, sub_self]

theorem flow_add (x y : α) (m n : G) : flow x y (m + n) = flow x y m + flow x y n := by
  rw [flow, flow, flow, Pi.single_add, Pi.single_add, add_sub_add_comm]

theorem flow_neg (x y : α) (n : G) : flow x y (-n) = flow y x n := by
  rw [flow, flow, Pi.single_neg, Pi.single_neg, neg_sub_neg]

/-- An amount that flows on has flowed from the first account to the last. -/
theorem flow_trans (x y z : α) (n : G) : flow x y n + flow y z n = flow x z n := by
  rw [flow, flow, flow, add_comm, sub_add_sub_cancel]

/-- What flows back is missing. -/
theorem flow_add_flow_symm (x y : α) (m n : G) : flow x y m + flow y x n = flow x y (m - n) := by
  rw [sub_eq_add_neg, flow_add, flow_neg]

/-! ### Flows that change nothing -/

/-- **A flow changes nothing** if it goes round or nothing flows. -/
theorem flow_eq_zero_iff : flow x y n = 0 ↔ x = y ∨ n = 0 := by
  constructor
  · intro h
    rcases eq_or_ne x y with hxy | hxy
    · exact Or.inl hxy
    · exact Or.inr ((flow_to hxy).symm.trans (congrFun h y))
  · rintro (rfl | rfl)
    · exact flow_self x n
    · exact flow_zero x y

/-- **Two flows into the two ends of one of them** change nothing if neither does, or if the
second brings back what the first has taken. -/
theorem flow_add_flow_eq_zero_iff :
    flow x y n + flow z x m = 0 ↔
      (x = y ∨ n = 0) ∧ (z = x ∨ m = 0) ∨ z = y ∧ n = m := by
  rcases eq_or_ne x y with rfl | hxy
  · rw [flow_self, zero_add, flow_eq_zero_iff]
    refine ⟨fun h => Or.inl ⟨Or.inl rfl, h⟩, ?_⟩
    rintro (⟨-, h⟩ | ⟨h, -⟩)
    · exact h
    · exact Or.inl h
  rcases eq_or_ne z y with rfl | hzy
  · rw [flow_add_flow_symm, flow_eq_zero_iff, sub_eq_zero]
    refine ⟨fun h => Or.inr ⟨rfl, h.resolve_left hxy⟩, ?_⟩
    rintro (⟨h, h'⟩ | ⟨-, h⟩)
    · exact Or.inr ((h.resolve_left hxy).trans (h'.resolve_left hxy.symm).symm)
    · exact Or.inr h
  constructor
  · intro h
    -- at `y` only the first flow arrives, and then the second is alone
    have hn : n = 0 := by
      have hy := congrFun h y
      rwa [Pi.add_apply, flow_to hxy, flow_of_ne hzy.symm hxy.symm, add_zero] at hy
    refine Or.inl ⟨Or.inr hn, flow_eq_zero_iff.mp ?_⟩
    rwa [hn, flow_zero, zero_add] at h
  · rintro (⟨h, h'⟩ | ⟨h, -⟩)
    · rw [flow_eq_zero_iff.mpr h, flow_eq_zero_iff.mpr h', add_zero]
    · exact absurd h hzy

end Pallet
