import MoneyPool.Pallet.Flow
import MoneyPool.GenericAsset.Ledger

/-!
# What has changed in a ledger

The change of the balances between two ledgers, as a function on the accounts for each asset.
A transfer adds a `Pallet.flow` to it, so that a sequence of transfers changes nothing exactly if
its flows add up to zero (`MoneyPool.GenericAsset.Store.sameBalances_iff`). This is what becomes
of transfers that are meant to undo each other.
-/

namespace MoneyPool

open Pallet

namespace GenericAsset

variable {AccountId : Type} [DecidableEq AccountId]

/-- **Two ledgers with the same balances**, free and reserved. -/
structure Store.SameBalances (s t : Store AccountId) : Prop where
  free : ∀ assetId who, t.free assetId who = s.free assetId who
  reserved : ∀ assetId who, t.reserved assetId who = s.reserved assetId who

/-- The change of the free balances of an asset. -/
def Store.change (s t : Store AccountId) (assetId : AssetId) : AccountId → Balance :=
  t.free assetId - s.free assetId

namespace Store

variable {s t : Store AccountId} {assetId asset' : AssetId} {fromAccount toAccount : AccountId}
  {amount : Balance}

@[simp] theorem change_self (s : Store AccountId) (assetId : AssetId) : s.change s assetId = 0 :=
  sub_self _

@[simp] theorem reserved_moved {who : AccountId} :
    (s.moved assetId fromAccount toAccount amount).reserved asset' who = s.reserved asset' who := by
  obtain ⟨m, hm⟩ := s.moved_eq assetId fromAccount toAccount amount
  rw [hm]
  rfl

/-- **A transfer is a flow**, whichever accounts it names. -/
theorem free_moved :
    (s.moved assetId fromAccount toAccount amount).free assetId =
      s.free assetId + flow fromAccount toAccount amount := by
  funext who
  rw [Pi.add_apply]
  rcases eq_or_ne fromAccount toAccount with rfl | hne
  · rw [moved_self, flow_self, Pi.zero_apply, add_zero]
  rcases eq_or_ne who fromAccount with rfl | hfrom
  · rw [free_moved_from hne, flow_from hne, sub_eq_add_neg]
  rcases eq_or_ne who toAccount with rfl | hto
  · rw [free_moved_to hne, flow_to hne]
  · rw [free_moved_of_ne hfrom hto, flow_of_ne hfrom hto, add_zero]

/-- A transfer adds its flow to what has changed. -/
theorem change_moved :
    s.change (t.moved assetId fromAccount toAccount amount) asset' =
      s.change t asset' + if asset' = assetId then flow fromAccount toAccount amount else 0 := by
  unfold change
  split
  · rename_i h
    rw [h, free_moved, add_sub_right_comm]
  · rename_i h
    have hsame : (t.moved assetId fromAccount toAccount amount).free asset' = t.free asset' :=
      funext fun _ => free_moved_asset h
    rw [hsame, add_zero]

/-- **The balances are the same** if nothing has changed for any asset. -/
theorem sameBalances_iff
    (hreserved : ∀ assetId who, t.reserved assetId who = s.reserved assetId who) :
    s.SameBalances t ↔ ∀ assetId, s.change t assetId = 0 := by
  constructor
  · intro h assetId
    exact sub_eq_zero.mpr (funext (h.free assetId))
  · intro h
    exact ⟨fun assetId who => congrFun (sub_eq_zero.mp (h assetId)) who, hreserved⟩

theorem SameBalances.refl (s : Store AccountId) : s.SameBalances s :=
  ⟨fun _ _ => rfl, fun _ _ => rfl⟩

/-- Where one asset has changed, the balances are the same if its change is nothing. -/
theorem sameBalances_of_change {f : AccountId → Balance}
    (hreserved : ∀ assetId who, t.reserved assetId who = s.reserved assetId who)
    (h : ∀ asset', s.change t asset' = if asset' = assetId then f else 0) :
    s.SameBalances t ↔ f = 0 := by
  rw [sameBalances_iff hreserved]
  constructor
  · intro hall
    have ha := hall assetId
    rwa [h, if_pos rfl] at ha
  · intro hf asset'
    rw [h, hf, ite_self]

/-- Where two assets have changed, the balances are the same if their changes are nothing, taken
together if they are one asset. -/
theorem sameBalances_of_change_two {b : AssetId} {f g : AccountId → Balance}
    (hreserved : ∀ assetId who, t.reserved assetId who = s.reserved assetId who)
    (h : ∀ asset', s.change t asset' =
      (if asset' = assetId then f else 0) + if asset' = b then g else 0) :
    s.SameBalances t ↔ (assetId ≠ b → f = 0 ∧ g = 0) ∧ (assetId = b → f + g = 0) := by
  rw [sameBalances_iff hreserved]
  rcases eq_or_ne assetId b with rfl | hne
  · refine ⟨fun hall => ⟨fun hno => absurd rfl hno, fun _ => ?_⟩, fun hsum asset' => ?_⟩
    · have ha := hall assetId
      rwa [h, if_pos rfl, if_pos rfl] at ha
    · rw [h]
      split
      · exact hsum.2 rfl
      · exact add_zero 0
  · refine ⟨fun hall => ⟨fun _ => ⟨?_, ?_⟩, fun hno => absurd hno hne⟩, fun hboth asset' => ?_⟩
    · have ha := hall assetId
      rwa [h, if_pos rfl, if_neg hne, add_zero] at ha
    · have hb := hall b
      rwa [h, if_neg hne.symm, if_pos rfl, zero_add] at hb
    · obtain ⟨hf, hg⟩ := hboth.1 hne
      rw [h, hf, hg, ite_self, ite_self, add_zero]

/-! ### There and back -/

/-- **A transfer that fits**: the balance covers it, and the receiver has room for it. -/
structure CanMove (s : Store AccountId) (assetId : AssetId) (fromAccount toAccount : AccountId)
    (amount : Balance) : Prop where
  covered : amount ≤ s.free assetId fromAccount
  room : fromAccount ≠ toAccount → (s.free assetId toAccount).toNat + amount.toNat < 2 ^ 128

/-- Whether a transfer fits is about the balances of its asset. -/
theorem CanMove.of_free (h : s.CanMove assetId fromAccount toAccount amount)
    (hsame : ∀ who, t.free assetId who = s.free assetId who) :
    t.CanMove assetId fromAccount toAccount amount := by
  refine ⟨?_, fun hne => ?_⟩
  · rw [hsame]
    exact h.covered
  · rw [hsame]
    exact h.room hne

/-- **What has arrived can be sent back.** -/
theorem CanMove.back (h : s.CanMove assetId fromAccount toAccount amount) :
    (s.moved assetId fromAccount toAccount amount).CanMove
      assetId toAccount fromAccount amount := by
  rcases eq_or_ne fromAccount toAccount with rfl | hne
  · rw [moved_self]
    exact h
  · have hcovered := BitVec.le_def.mp h.covered
    refine ⟨?_, fun _ => ?_⟩
    · rw [free_moved_to hne, BitVec.le_def, BitVec.toNat_add_of_lt (h.room hne)]
      exact Nat.le_add_left _ _
    · rw [free_moved_from hne, BitVec.toNat_sub_of_le h.covered, Nat.sub_add_cancel hcovered]
      exact (s.free assetId fromAccount).isLt

/-- Who sends nothing has no less afterwards. -/
theorem CanMove.le_free (h : s.CanMove assetId fromAccount toAccount amount) {who : AccountId}
    (hwho : who ≠ fromAccount) :
    s.free asset' who ≤ (s.moved assetId fromAccount toAccount amount).free asset' who := by
  rcases eq_or_ne asset' assetId with rfl | hasset
  · rcases eq_or_ne who toAccount with rfl | hto
    · rw [free_moved_to hwho.symm, BitVec.le_def, BitVec.toNat_add_of_lt (h.room hwho.symm)]
      exact Nat.le_add_right _ _
    · exact BitVec.le_of_eq (free_moved_of_ne hwho hto).symm
  · exact BitVec.le_of_eq (free_moved_asset hasset).symm

/-- A transfer writes free balances only, also after others. -/
theorem moved_of_eq (h : t = { s with freeBalance := t.freeBalance }) :
    t.moved assetId fromAccount toAccount amount =
      { s with freeBalance := (t.moved assetId fromAccount toAccount amount).freeBalance } := by
  obtain ⟨m, hm⟩ := t.moved_eq assetId fromAccount toAccount amount
  rw [hm, h]

/-- Where the balances are the same, a transfer does the same to them. -/
theorem free_moved_congr (hsame : ∀ assetId who, t.free assetId who = s.free assetId who)
    {who : AccountId} : (t.moved assetId fromAccount toAccount amount).free asset' who =
      (s.moved assetId fromAccount toAccount amount).free asset' who := by
  rcases eq_or_ne asset' assetId with rfl | hasset
  · rw [free_moved, free_moved, funext (hsame asset')]
  · rw [free_moved_asset hasset, free_moved_asset hasset, hsame]

/-- **A transfer and its return** restore every balance. -/
theorem free_moved_back {who : AccountId} :
    ((s.moved assetId fromAccount toAccount amount).moved assetId toAccount fromAccount
      amount).free asset' who = s.free asset' who := by
  rcases eq_or_ne asset' assetId with rfl | hasset
  · rw [free_moved, free_moved, add_assoc, flow_trans, flow_self, add_zero]
  · rw [free_moved_asset hasset, free_moved_asset hasset]

end Store

end GenericAsset

end MoneyPool
