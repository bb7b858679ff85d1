import MoneyPool.Pallet.Scale

/-!
# Words, lengths and byte strings in a codec

A word is written in a fixed number of bytes, the lowest first. A length is written in as few bytes
as it needs, in one of four forms, and the two lowest bits of the first byte say in which. A string
of bytes is its length and then the bytes, and a pair one component after the other. Reading undoes
writing for each of them (`Pallet.Codec.undoes_word`, `Pallet.Codec.undoes_compact`,
`Pallet.Codec.undoes_byteString`, `Pallet.Codec.undoes_pair`), and so no two values are written in
the same way (`Pallet.Codec.Undoes.injective`).
-/

namespace Pallet

/-! ### Numbers -/

/-- A number in a given number of bytes, the lowest first. -/
def leBytes : ℕ → ℕ → List UInt8
  | 0, _ => []
  | n + 1, v => UInt8.ofNat v :: leBytes n (v / 256)

/-- The number in some bytes, the lowest first. -/
def ofLeBytes (b : List UInt8) : ℕ := Nat.ofDigits 256 (b.map UInt8.toNat)

theorem length_leBytes (n v : ℕ) : (leBytes n v).length = n := by
  induction n generalizing v with
  | zero => rfl
  | succ n ih => rw [leBytes, List.length_cons, ih]

/-- A number that fits is read as it was written. -/
theorem ofLeBytes_leBytes {n v : ℕ} (h : v < 256 ^ n) : ofLeBytes (leBytes n v) = v := by
  induction n generalizing v with
  | zero =>
    rw [pow_zero, Nat.lt_one_iff] at h
    rw [h]
    rfl
  | succ n ih =>
    have hhigh : v / 256 < 256 ^ n := by
      rw [pow_succ] at h
      exact Nat.div_lt_of_lt_mul (by rwa [mul_comm] at h)
    have hlow : (UInt8.ofNat v).toNat = v % 256 := UInt8.toNat_ofNat'
    have hrest : Nat.ofDigits 256 ((leBytes n (v / 256)).map UInt8.toNat) = v / 256 := ih hhigh
    rw [ofLeBytes, leBytes, List.map_cons, Nat.ofDigits_cons, hrest, hlow, Nat.mod_add_div]

namespace Decoder

/-- Read a number in a given number of bytes. -/
def number (n : ℕ) : Decoder ℕ := fun b =>
  if (b.take n).length = n then some (ofLeBytes (b.take n), b.drop n) else none

theorem run_number {n v : ℕ} (h : v < 256 ^ n) (rest : List UInt8) :
    (number n).run (leBytes n v ++ rest) = some (v, rest) := by
  have htake : (leBytes n v ++ rest).take n = leBytes n v := by
    rw [List.take_append_of_le_length (length_leBytes n v).ge]
    exact List.take_of_length_le (length_leBytes n v).le
  have hdrop : (leBytes n v ++ rest).drop n = rest := by
    rw [List.drop_append_of_le_length (length_leBytes n v).ge,
      List.drop_of_length_le (length_leBytes n v).le, List.nil_append]
  change (if ((leBytes n v ++ rest).take n).length = n then
    some (ofLeBytes ((leBytes n v ++ rest).take n), (leBytes n v ++ rest).drop n) else none) = _
  rw [htake, hdrop, if_pos (length_leBytes n v), ofLeBytes_leBytes h]

end Decoder

namespace Codec

variable {α γ : Type}

/-- Different values are written differently. -/
theorem Undoes.injective {c : Codec α} (h : c.Undoes) : Function.Injective c.encode := by
  intro a a' heq
  have hread := h a []
  rw [heq, h a' []] at hread
  exact (Prod.mk.inj (Option.some.inj hread)).1.symm

/-! ### Words -/

/-- **A word** of some bytes. -/
def word (n : ℕ) : Codec (BitVec (8 * n)) where
  encode v := leBytes n v.toNat
  decode := do
    let v ← Decoder.number n
    pure (BitVec.ofNat (8 * n) v)

theorem undoes_word (n : ℕ) : (word n).Undoes := by
  intro v rest
  have hfits : v.toNat < 256 ^ n := by
    rw [show (256 : ℕ) = 2 ^ 8 by rfl, ← pow_mul]
    exact v.isLt
  change (word n).decode.run (leBytes n v.toNat ++ rest) = _
  rw [word, Decoder.run_bind_of_run (Decoder.run_number hfits rest)]
  show some (BitVec.ofNat (8 * n) v.toNat, rest) = _
  rw [BitVec.ofNat_toNat, BitVec.setWidth_eq]

/-! ### Lengths -/

/-- Read a length that has its form in the two lowest bits. -/
def readShifted (n : ℕ) : Decoder (BitVec 32) := do
  let v ← Decoder.number n
  pure (BitVec.ofNat 32 (v / 4))

/-- **A compact length**: six bits in one byte, fourteen in two, thirty in four, or else a byte of
its own and then all of it. -/
def compact : Codec (BitVec 32) where
  encode v :=
    if v.toNat < 2 ^ 6 then leBytes 1 (4 * v.toNat)
    else if v.toNat < 2 ^ 14 then leBytes 2 (4 * v.toNat + 1)
    else if v.toNat < 2 ^ 30 then leBytes 4 (4 * v.toNat + 2)
    else leBytes 1 3 ++ leBytes 4 v.toNat
  decode b := match b with
    | [] => none
    | first :: rest =>
      if first.toNat % 4 = 0 then (readShifted 1).run b
      else if first.toNat % 4 = 1 then (readShifted 2).run b
      else if first.toNat % 4 = 2 then (readShifted 4).run b
      else if first.toNat / 4 = 0 then (word 4).decode.run rest
      else none

theorem run_readShifted {n k : ℕ} {v : BitVec 32} (hk : k < 4) (h : 4 * v.toNat + k < 256 ^ n)
    (rest : List UInt8) :
    (readShifted n).run (leBytes n (4 * v.toNat + k) ++ rest) = some (v, rest) := by
  have hv : (4 * v.toNat + k) / 4 = v.toNat := by omega
  rw [readShifted, Decoder.run_bind_of_run (Decoder.run_number h rest)]
  show some (BitVec.ofNat 32 ((4 * v.toNat + k) / 4), rest) = _
  rw [hv, BitVec.ofNat_toNat, BitVec.setWidth_eq]

/-- The form of a length is in its first byte. -/
theorem toNat_ofNat_mod_four {v k : ℕ} (hk : k < 4) :
    (UInt8.ofNat (4 * v + k)).toNat % 4 = k := by
  have hbyte : (UInt8.ofNat (4 * v + k)).toNat = (4 * v + k) % 256 := UInt8.toNat_ofNat'
  rw [hbyte]
  omega

theorem undoes_compact : compact.Undoes := by
  intro v rest
  by_cases h6 : v.toNat < 2 ^ 6
  · have henc : compact.encode v = leBytes 1 (4 * v.toNat + 0) := if_pos h6
    have hform : (UInt8.ofNat (4 * v.toNat + 0)).toNat % 4 = 0 := toNat_ofNat_mod_four (by decide)
    rw [henc]
    refine (if_pos hform).trans ?_
    exact run_readShifted (by decide) (by omega) rest
  by_cases h14 : v.toNat < 2 ^ 14
  · have henc : compact.encode v = leBytes 2 (4 * v.toNat + 1) :=
      (if_neg h6).trans (if_pos h14)
    have hform : (UInt8.ofNat (4 * v.toNat + 1)).toNat % 4 = 1 := toNat_ofNat_mod_four (by decide)
    rw [henc]
    refine (if_neg (by rw [hform]; decide)).trans ((if_pos hform).trans ?_)
    exact run_readShifted (by decide) (by omega) rest
  by_cases h30 : v.toNat < 2 ^ 30
  · have henc : compact.encode v = leBytes 4 (4 * v.toNat + 2) :=
      (if_neg h6).trans ((if_neg h14).trans (if_pos h30))
    have hform : (UInt8.ofNat (4 * v.toNat + 2)).toNat % 4 = 2 := toNat_ofNat_mod_four (by decide)
    rw [henc]
    refine (if_neg (by rw [hform]; decide)).trans
      ((if_neg (by rw [hform]; decide)).trans ((if_pos hform).trans ?_))
    exact run_readShifted (by decide) (by omega) rest
  · have henc : compact.encode v = 3 :: (word 4).encode v :=
      (if_neg h6).trans ((if_neg h14).trans (if_neg h30))
    rw [henc]
    exact undoes_word 4 v rest

/-! ### Strings and pairs -/

/-- **A string of bytes**: its length and then the bytes. -/
def byteString : Codec { v : List UInt8 // v.length < 2 ^ 32 } where
  encode v := compact.encode (BitVec.ofNat 32 v.1.length) ++ v.1
  decode := do
    let n ← compact.decode
    let v ← (bytes n.toNat).decode
    pure ⟨v.1, v.2.trans_lt n.isLt⟩

theorem undoes_byteString : byteString.Undoes := by
  rintro ⟨v, hv⟩ rest
  have hn : (BitVec.ofNat 32 v.length).toNat = v.length := by
    rw [BitVec.toNat_ofNat, Nat.mod_eq_of_lt hv]
  have hbytes : (bytes (BitVec.ofNat 32 v.length).toNat).decode.run (v ++ rest) =
      some (⟨v, hn.symm⟩, rest) := undoes_bytes _ ⟨v, hn.symm⟩ rest
  change byteString.decode.run ((compact.encode (BitVec.ofNat 32 v.length) ++ v) ++ rest) = _
  rw [List.append_assoc, byteString,
    Decoder.run_bind_of_run (undoes_compact (BitVec.ofNat 32 v.length) (v ++ rest)),
    Decoder.run_bind_of_run hbytes]
  rfl

/-- **A pair**: one component after the other. -/
def pair (c : Codec α) (d : Codec γ) : Codec (α × γ) where
  encode p := c.encode p.1 ++ d.encode p.2
  decode := do
    let a ← c.decode
    let b ← d.decode
    pure (a, b)

theorem undoes_pair {c : Codec α} {d : Codec γ} (hc : c.Undoes) (hd : d.Undoes) :
    (pair c d).Undoes := by
  rintro ⟨a, b⟩ rest
  change (pair c d).decode.run ((c.encode a ++ d.encode b) ++ rest) = _
  rw [List.append_assoc, pair, Decoder.run_bind_of_run (hc a (d.encode b ++ rest)),
    Decoder.run_bind_of_run (hd b rest)]
  rfl

/-- Three lengths, one of each of the first forms. -/
example : [1, 69, 65535].map compact.encode = [[4], [21, 1], [254, 255, 3, 0]] := by decide

end Codec

end Pallet
