import Mathlib

/-!
# Codecs that read from the front

A codec writes a value as bytes and reads one from the front of some bytes, leaving the rest. It is
asked for two things: that reading undoes writing whatever follows
(`Pallet.Codec.Undoes`), and that nothing else is read but what would have been written
(`Pallet.Codec.Canonical`). Readers are put together by their binds, and the two rules
`Pallet.Decoder.run_bind_of_run` and `Pallet.Decoder.run_bind_eq_some_iff` take a composed reader
apart again, for the one property and for the other.
-/

namespace Pallet

/-- **A reader**: it takes what it needs from the front of the input, or fails. -/
abbrev Decoder (α : Type) : Type := StateT (List UInt8) Option α

namespace Decoder

variable {α γ : Type} {x : Decoder α} {f : α → Decoder γ} {a : α} {c : γ} {b rest : List UInt8}

/-- Read a byte. -/
def byte : Decoder UInt8
  | [] => none
  | i :: rest => some (i, rest)

/-- What has been read is handed on, with the rest. -/
theorem run_bind_of_run (h : x.run b = some (a, rest)) : (x >>= f).run b = (f a).run rest := by
  rw [StateT.run_bind, h]
  rfl

/-- Two readers in a row read something if both do. -/
theorem run_bind_eq_some_iff : (x >>= f).run b = some (c, rest) ↔
    ∃ a b', x.run b = some (a, b') ∧ (f a).run b' = some (c, rest) := by
  rw [StateT.run_bind]
  simp only [Option.bind_eq_bind, Option.bind_eq_some_iff, Prod.exists]

theorem run_byte_eq_some_iff {i : UInt8} : byte.run b = some (i, rest) ↔ b = i :: rest := by
  cases b with
  | nil => simp [byte, StateT.run]
  | cons j b => simp [byte, StateT.run]

end Decoder

/-- **A codec.** -/
structure Codec (α : Type) where
  encode : α → List UInt8
  decode : Decoder α

namespace Codec

variable {α : Type}

/-- **Reading undoes writing**, whatever follows. -/
def Undoes (c : Codec α) : Prop := ∀ a rest, c.decode.run (c.encode a ++ rest) = some (a, rest)

/-- **Only what is written is read.** -/
def Canonical (c : Codec α) : Prop :=
  ∀ b a rest, c.decode.run b = some (a, rest) → b = c.encode a ++ rest

/-- A fixed number of bytes. -/
def bytes (n : ℕ) : Codec { v : List UInt8 // v.length = n } where
  encode v := v.1
  decode b := if h : (b.take n).length = n then some (⟨b.take n, h⟩, b.drop n) else none

theorem run_bytes (n : ℕ) (b : List UInt8) : (bytes n).decode.run b =
    if h : (b.take n).length = n then some (⟨b.take n, h⟩, b.drop n) else none := rfl

theorem undoes_bytes (n : ℕ) : (bytes n).Undoes := by
  rintro ⟨v, rfl⟩ rest
  have htake : (v ++ rest).take v.length = v := List.take_left
  change (bytes v.length).decode.run (v ++ rest) = _
  rw [run_bytes, dif_pos (by rw [htake]), Option.some.injEq, Prod.mk.injEq]
  exact ⟨Subtype.ext htake, List.drop_left⟩

theorem canonical_bytes (n : ℕ) : (bytes n).Canonical := by
  intro b v rest h
  rw [run_bytes] at h
  split at h
  · cases h
    exact (List.take_append_drop n b).symm
  · cases h

end Codec

end Pallet
