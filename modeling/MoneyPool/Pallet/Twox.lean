import Mathlib

/-!
# The hash of four bytes

`twox_64` is the 64-bit xxHash with seed zero. Of an input of four bytes it is a chain of
operations on one word, each of which loses nothing: a product with an odd constant, a
sum, a rotation and the exclusive or of a word with its own shift. So different inputs of
four bytes have different hashes (`Pallet.Twox.hashWord_injective`).
-/

namespace Pallet

namespace Twox

variable {w : ℕ}

/-! ### Operations that lose nothing -/

/-- A factor with an inverse can be cancelled. -/
theorem mul_injective {a b : BitVec w} (h : a * b = 1) : Function.Injective fun x => x * a := by
  intro x y hxy
  have hcancel : x * a * b = y * a * b := congrArg (· * b) hxy
  rwa [mul_assoc, mul_assoc, h, mul_one, mul_one] at hcancel

/-- **A word and its own shift**: the upper bits are what they were, and a bit can be read
off once the bits above it are known. -/
theorem xorShift_injective {k : ℕ} (hk : 0 < k) :
    Function.Injective fun x : BitVec w => x ^^^ x >>> k := by
  intro x y hxy
  have hbit : ∀ n i, w - i ≤ n → x.getLsbD i = y.getLsbD i := by
    intro n
    induction n with
    | zero =>
      intro i hi
      rw [BitVec.getLsbD_of_ge _ _ (by omega), BitVec.getLsbD_of_ge _ _ (by omega)]
    | succ n ih =>
      intro i hi
      have habove : x.getLsbD (k + i) = y.getLsbD (k + i) := ih (k + i) (by omega)
      have hboth := congrArg (fun z : BitVec w => z.getLsbD i) hxy
      simp only [BitVec.getLsbD_xor, BitVec.getLsbD_ushiftRight, habove] at hboth
      exact Bool.xor_left_inj.mp hboth
  exact BitVec.eq_of_getLsbD_eq fun i _ => hbit (w - i) i le_rfl

/-- A rotation moves every bit somewhere. -/
theorem rotateLeft_injective {k : ℕ} (hk : k < w) :
    Function.Injective fun x : BitVec w => x.rotateLeft k := by
  intro x y hxy
  refine BitVec.eq_of_getLsbD_eq fun i hi => ?_
  rcases Nat.lt_or_ge (i + k) w with hup | hup
  · have hnot : ¬i + k < k := by omega
    have hmoved := congrArg (fun z : BitVec w => z.getLsbD (i + k)) hxy
    simpa [BitVec.getLsbD_rotateLeft, Nat.mod_eq_of_lt hk, hnot, hup, BitVec.getLsbD_eq_getElem hi]
      using hmoved
  · have hlow : i + k - w < k := by omega
    have hback : w - k + (i + k - w) = i := by omega
    have hmoved := congrArg (fun z : BitVec w => z.getLsbD (i + k - w)) hxy
    simpa [BitVec.getLsbD_rotateLeft, Nat.mod_eq_of_lt hk, hlow, hback] using hmoved

/-! ### The hash -/

/-- The five primes of the hash; the fourth has no part in short inputs. -/
def prime1 : BitVec 64 := 0x9E3779B185EBCA87

@[inherit_doc prime1] def prime2 : BitVec 64 := 0xC2B2AE3D27D4EB4F

@[inherit_doc prime1] def prime3 : BitVec 64 := 0x165667B19E3779F9

@[inherit_doc prime1] def prime5 : BitVec 64 := 0x27D4EB2F165667C5

/-- The round that takes in the four bytes. -/
def round (v : BitVec 64) : BitVec 64 :=
  ((prime5 + 4) ^^^ v * prime1).rotateLeft 23 * prime2 + prime3

/-- The mix at the end. -/
def avalanche (h : BitVec 64) : BitVec 64 :=
  let h := (h ^^^ h >>> 33) * prime2
  let h := (h ^^^ h >>> 29) * prime3
  h ^^^ h >>> 32

/-- The hash of four bytes, as one word in little-endian order. -/
def hashWord (v : BitVec 32) : BitVec 64 := avalanche (round (v.setWidth 64))

theorem round_injective : Function.Injective round := by
  have hmul1 : Function.Injective fun x => x * prime1 :=
    mul_injective (b := 0x887493432BADB37) (by decide)
  have hmul2 : Function.Injective fun x => x * prime2 :=
    mul_injective (b := 0xBA79078168D4BAF) (by decide)
  have hrot : Function.Injective fun x : BitVec 64 => x.rotateLeft 23 :=
    rotateLeft_injective (by decide)
  intro x y hxy
  have hsum := hrot (hmul2 (add_right_cancel hxy))
  exact hmul1 ((BitVec.xor_right_inj _).mp hsum)

theorem avalanche_injective : Function.Injective avalanche := by
  have hmul2 : Function.Injective fun x => x * prime2 :=
    mul_injective (b := 0xBA79078168D4BAF) (by decide)
  have hmul3 : Function.Injective fun x => x * prime3 :=
    mul_injective (b := 0xE9E9F4C41D6DF849) (by decide)
  intro x y hxy
  have hlast := hmul3 (xorShift_injective (by decide) hxy)
  exact xorShift_injective (by decide) (hmul2 (xorShift_injective (by decide) hlast))

/-- **Different inputs of four bytes have different hashes.** -/
theorem hashWord_injective : Function.Injective hashWord := by
  intro x y hxy
  have hwide := round_injective (avalanche_injective hxy)
  have hnarrow := congrArg (fun z : BitVec 64 => z.setWidth 32) hwide
  simpa using hnarrow

/-- The word of four bytes. -/
def wordOf (b₀ b₁ b₂ b₃ : UInt8) : BitVec 32 :=
  (b₃.toBitVec ++ b₂.toBitVec ++ b₁.toBitVec ++ b₀.toBitVec).cast (by decide)

/-- The bytes of a word, lowest first, make up the word. -/
theorem wordOf_bytes (v : BitVec 32) :
    wordOf (UInt8.ofNat v.toNat) (UInt8.ofNat (v >>> 8).toNat) (UInt8.ofNat (v >>> 16).toNat)
      (UInt8.ofNat (v >>> 24).toNat) = v := by
  have hbyte : ∀ x : BitVec 32, (UInt8.ofNat x.toNat).toBitVec = x.setWidth 8 := by
    intro x
    refine BitVec.eq_of_toNat_eq ?_
    simp
  rw [wordOf]
  simp only [hbyte]
  refine BitVec.eq_of_getLsbD_eq fun i hi => ?_
  simp only [BitVec.getLsbD_cast, BitVec.getLsbD_append, BitVec.getLsbD_setWidth,
    BitVec.getLsbD_ushiftRight]
  -- the four bytes that bit `i` may be in
  split_ifs with h0 h1 h2
  · simp [h0]
  · rw [decide_eq_true h1, Bool.true_and, show 8 + (i - 8) = i by omega]
  · rw [decide_eq_true h2, Bool.true_and, show 16 + (i - 8 - 8) = i by omega]
  · rw [decide_eq_true (by omega), Bool.true_and, show 24 + (i - 8 - 8 - 8) = i by omega]

/-- **The hash**, on inputs of four bytes. -/
def twox64 : List UInt8 → BitVec 64
  | [b₀, b₁, b₂, b₃] => hashWord (wordOf b₀ b₁ b₂ b₃)
  | _ => 0

/-- The hash of the bytes of `abcd`. -/
example : twox64 [97, 98, 99, 100] = 0xDE0327B0D25D92CC := by decide

end Twox

end Pallet
