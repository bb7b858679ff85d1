import MoneyPool.Pallet.Exec

/-!
# Machine arithmetic

The arithmetic of unsigned machine words, as operations of `Pallet.Exec`. The
plain operators follow the build: where it checks them an overflow panics, and
otherwise the exact result is reduced modulo the word size. A division by zero
panics in every build. The `checked` operators return `none` on overflow and
leave the decision to the caller, and `Pallet.tryInto` is the conversion to a
narrower word that fails rather than truncates.

Every operator comes with its `Pallet.Exec.wp` rule: a guard whose failure is a
panic, and the result behind it. The checked build shows as an implication from
the flag of the build.
-/

namespace Pallet

variable {β : Build} {σ ε : Type} {w : ℕ}

/-! ### The operators that return an option -/

/-- Addition, or `none` if the sum does not fit. -/
def checkedAdd (a b : BitVec w) : Option (BitVec w) :=
  if a.toNat + b.toNat < 2 ^ w then some (a + b) else none

/-- Subtraction, or `none` if the difference is negative. -/
def checkedSub (a b : BitVec w) : Option (BitVec w) :=
  if b.toNat ≤ a.toNat then some (a - b) else none

/-- Multiplication, or `none` if the product does not fit. -/
def checkedMul (a b : BitVec w) : Option (BitVec w) :=
  if a.toNat * b.toNat < 2 ^ w then some (a * b) else none

/-- Conversion to a word of `v` bits, or `none` if the value does not fit. -/
def tryInto (v : ℕ) (a : BitVec w) : Option (BitVec v) :=
  if a.toNat < 2 ^ v then some (a.setWidth v) else none

theorem checkedSub_eq_some {a b c : BitVec w} :
    checkedSub a b = some c ↔ b.toNat ≤ a.toNat ∧ a - b = c := by
  simp [checkedSub]

theorem ne_zero_iff {x : BitVec w} : x ≠ 0 ↔ x.toNat ≠ 0 := BitVec.toNat_ne

theorem toNat_pos_iff {x : BitVec w} : x ≠ 0 ↔ 0 < x.toNat :=
  ne_zero_iff.trans Nat.pos_iff_ne_zero.symm

/-! ### Wrapped sums -/

/-- A wrapped sum is the exact one or falls short of it by the word size. -/
theorem toNat_add_cases (a b : BitVec w) :
    (a + b).toNat = a.toNat + b.toNat ∨ (a + b).toNat + 2 ^ w = a.toNat + b.toNat := by
  have ha := a.isLt
  have hb := b.isLt
  rw [BitVec.toNat_add]
  rcases Nat.lt_or_ge (a.toNat + b.toNat) (2 ^ w) with h | h
  · exact Or.inl (Nat.mod_eq_of_lt h)
  · refine Or.inr ?_
    rw [Nat.mod_eq_sub_mod h, Nat.mod_eq_of_lt (by omega)]
    omega

/-- A wrapped difference is the exact one or exceeds it by the word size. -/
theorem toNat_sub_cases (a b : BitVec w) :
    b.toNat ≤ a.toNat ∧ (a - b).toNat + b.toNat = a.toNat ∨
      a.toNat < b.toNat ∧ (a - b).toNat + b.toNat = a.toNat + 2 ^ w := by
  rcases Nat.lt_or_ge a.toNat b.toNat with h | h
  · refine Or.inr ⟨h, ?_⟩
    have ha := a.isLt
    have hb := b.isLt
    rw [BitVec.toNat_sub, Nat.mod_eq_of_lt (by omega)]
    omega
  · refine Or.inl ⟨h, ?_⟩
    rw [BitVec.toNat_sub_of_le (BitVec.le_def.mpr h)]
    omega

/-- A difference that does not underflow is less. -/
theorem sub_le_of_toNat_le {a b : BitVec w} (h : b.toNat ≤ a.toNat) : a - b ≤ a := by
  rw [BitVec.le_def, BitVec.toNat_sub_of_le (BitVec.le_def.mpr h)]
  exact Nat.sub_le ..

/-- A wrapped sum covers what has been added exactly if it fits. -/
theorem le_add_iff_fits {a b : BitVec w} : b ≤ a + b ↔ a.toNat + b.toNat < 2 ^ w := by
  have ha := a.isLt
  have hsum := (a + b).isLt
  rw [BitVec.le_def]
  rcases toNat_add_cases a b with hexact | hshort
  · omega
  · omega

/-! ### Exact products -/

/-- Two products, one after the other, are the exact one where both fit. -/
theorem toNat_mul_mul {a b c : BitVec w} (hab : a.toNat * b.toNat < 2 ^ w)
    (habc : (a * b).toNat * c.toNat < 2 ^ w) :
    (a * b * c).toNat = a.toNat * (b.toNat * c.toNat) := by
  rw [BitVec.toNat_mul_of_lt habc, BitVec.toNat_mul_of_lt hab, Nat.mul_assoc]

/-- Two products fit, one after the other, exactly if the whole product does. -/
theorem mul_mul_fits_iff {a b c : BitVec w} (hc : c ≠ 0) :
    a.toNat * b.toNat < 2 ^ w ∧ (a * b).toNat * c.toNat < 2 ^ w ↔
      a.toNat * (b.toNat * c.toNat) < 2 ^ w := by
  rw [← Nat.mul_assoc]
  constructor
  · rintro ⟨hab, habc⟩
    rwa [BitVec.toNat_mul_of_lt hab] at habc
  · intro h
    have hab : a.toNat * b.toNat < 2 ^ w :=
      lt_of_le_of_lt (Nat.le_mul_of_pos_right _ (toNat_pos_iff.mp hc)) h
    exact ⟨hab, by rwa [BitVec.toNat_mul_of_lt hab]⟩

/-! ### Exact sums -/

/-- The exact sum of some words. -/
def exactSum (words : List (BitVec w)) : ℕ := (words.map BitVec.toNat).sum

theorem exactSum_cons (word : BitVec w) (words : List (BitVec w)) :
    exactSum (word :: words) = word.toNat + exactSum words := by
  rw [exactSum, List.map_cons, List.sum_cons]
  rfl

theorem exactSum_append (words words' : List (BitVec w)) :
    exactSum (words ++ words') = exactSum words + exactSum words' := by
  rw [exactSum, List.map_append, List.sum_append]
  rfl

/-- Words add up to what is left of their exact sum. -/
theorem toNat_sum (words : List (BitVec w)) : words.sum.toNat = exactSum words % 2 ^ w := by
  induction words with
  | nil => exact (Nat.zero_mod _).symm
  | cons word words ih => rw [List.sum_cons, BitVec.toNat_add, ih, exactSum_cons, Nat.add_mod_mod]

/-- A word that is taken out, is missing in the sum. -/
theorem exactSum_erase {word : BitVec w} {words : List (BitVec w)} (h : word ∈ words) :
    exactSum (words.erase word) + word.toNat = exactSum words := by
  have hperm := (List.perm_cons_erase h).map BitVec.toNat
  rw [exactSum, exactSum, hperm.sum_eq, List.map_cons, List.sum_cons, Nat.add_comm]

/-! ### The operators of a build -/

namespace Exec

/-- `a + b`. -/
def add (a b : BitVec w) : Exec β σ ε (BitVec w) :=
  if β.sums = true ∧ 2 ^ w ≤ a.toNat + b.toNat then halt else pure (a + b)

/-- `a - b`. -/
def sub (a b : BitVec w) : Exec β σ ε (BitVec w) :=
  if β.sums = true ∧ a.toNat < b.toNat then halt else pure (a - b)

/-- `a * b`. -/
def mul (a b : BitVec w) : Exec β σ ε (BitVec w) :=
  if β.products = true ∧ 2 ^ w ≤ a.toNat * b.toNat then halt else pure (a * b)

/-- `a.pow(n)`. -/
def pow (a : BitVec w) (n : ℕ) : Exec β σ ε (BitVec w) :=
  if β.products = true ∧ 2 ^ w ≤ a.toNat ^ n then halt else pure (a ^ n)

/-- `a / b`. -/
def div (a b : BitVec w) : Exec β σ ε (BitVec w) := if b = 0 then halt else pure (a / b)

variable {Q : BitVec w → σ → Prop} {E : ε → σ → Prop} {P : Prop} {s : σ} (a b : BitVec w)

@[simp] theorem wp_add : wp (add a b : Exec β σ ε (BitVec w)) Q E P s ↔
    (¬(β.sums = true → a.toNat + b.toNat < 2 ^ w) → P) ∧
      ((β.sums = true → a.toNat + b.toNat < 2 ^ w) → Q (a + b) s) := by
  rw [add, wp_ite, wp_halt, wp_pure]
  simp only [not_and, Classical.not_imp, not_lt, not_le]

@[simp] theorem wp_sub : wp (sub a b : Exec β σ ε (BitVec w)) Q E P s ↔
    (¬(β.sums = true → b.toNat ≤ a.toNat) → P) ∧
      ((β.sums = true → b.toNat ≤ a.toNat) → Q (a - b) s) := by
  rw [sub, wp_ite, wp_halt, wp_pure]
  simp only [not_and, Classical.not_imp, not_lt, not_le]

@[simp] theorem wp_mul : wp (mul a b : Exec β σ ε (BitVec w)) Q E P s ↔
    (¬(β.products = true → a.toNat * b.toNat < 2 ^ w) → P) ∧
      ((β.products = true → a.toNat * b.toNat < 2 ^ w) → Q (a * b) s) := by
  rw [mul, wp_ite, wp_halt, wp_pure]
  simp only [not_and, Classical.not_imp, not_lt, not_le]

@[simp] theorem wp_pow (n : ℕ) : wp (pow a n : Exec β σ ε (BitVec w)) Q E P s ↔
    (¬(β.products = true → a.toNat ^ n < 2 ^ w) → P) ∧
      ((β.products = true → a.toNat ^ n < 2 ^ w) → Q (a ^ n) s) := by
  rw [pow, wp_ite, wp_halt, wp_pure]
  simp only [not_and, Classical.not_imp, not_lt, not_le]

@[simp] theorem wp_div : wp (div a b : Exec β σ ε (BitVec w)) Q E P s ↔
    (¬b ≠ 0 → P) ∧ (b ≠ 0 → Q (a / b) s) := by
  rw [div, wp_ite, wp_halt, wp_pure, not_not]

/-! ### The checked operators, unwrapped -/

theorem wp_unwrap_if {α : Type} {Q : α → σ → Prop} (c : Prop) [Decidable c] (v : α) :
    wp (unwrap (if c then some v else none) : Exec β σ ε α) Q E P s ↔
      (¬c → P) ∧ (c → Q v s) := by
  by_cases h : c <;> simp [h]

theorem wp_okOr_if {α : Type} {Q : α → σ → Prop} (c : Prop) [Decidable c] (v : α) (e : ε) :
    wp (okOr (if c then some v else none) e : Exec β σ ε α) Q E P s ↔
      (¬c → E e s) ∧ (c → Q v s) := by
  by_cases h : c <;> simp [h]

@[simp] theorem wp_unwrap_checkedAdd :
    wp (unwrap (checkedAdd a b) : Exec β σ ε (BitVec w)) Q E P s ↔
      (¬a.toNat + b.toNat < 2 ^ w → P) ∧ (a.toNat + b.toNat < 2 ^ w → Q (a + b) s) := by
  rw [checkedAdd, wp_unwrap_if]

@[simp] theorem wp_unwrap_checkedMul :
    wp (unwrap (checkedMul a b) : Exec β σ ε (BitVec w)) Q E P s ↔
      (¬a.toNat * b.toNat < 2 ^ w → P) ∧ (a.toNat * b.toNat < 2 ^ w → Q (a * b) s) := by
  rw [checkedMul, wp_unwrap_if]

@[simp] theorem wp_unwrap_tryInto {v : ℕ} {Q : BitVec v → σ → Prop} :
    wp (unwrap (tryInto v a) : Exec β σ ε (BitVec v)) Q E P s ↔
      (¬a.toNat < 2 ^ v → P) ∧ (a.toNat < 2 ^ v → Q (a.setWidth v) s) := by
  rw [tryInto, wp_unwrap_if]

@[simp] theorem wp_okOr_checkedAdd (e : ε) :
    wp (okOr (checkedAdd a b) e : Exec β σ ε (BitVec w)) Q E P s ↔
      (¬a.toNat + b.toNat < 2 ^ w → E e s) ∧ (a.toNat + b.toNat < 2 ^ w → Q (a + b) s) := by
  rw [checkedAdd, wp_okOr_if]

@[simp] theorem wp_okOr_checkedSub (e : ε) :
    wp (okOr (checkedSub a b) e : Exec β σ ε (BitVec w)) Q E P s ↔
      (¬b.toNat ≤ a.toNat → E e s) ∧ (b.toNat ≤ a.toNat → Q (a - b) s) := by
  rw [checkedSub, wp_okOr_if]

end Exec

end Pallet
