import MoneyPool.Pallet.Word
import MoneyPool.Pallet.StorageMap

/-!
# The types of the runtime

The associated types of the pallets, at the values the runtime gives them, the
origins of a dispatched call, and the errors it may return. The type of accounts
stays a parameter throughout: the pallets only compare accounts and, in two
places, use the default one.
-/

namespace MoneyPool

/-- `Balance`, a `u128`. -/
abbrev Balance : Type := BitVec 128

/-- `AssetId`, a `u32`. -/
abbrev AssetId : Type := BitVec 32

/-- `PriceInUSDT`, a `u64`. -/
abbrev PriceInUSDT : Type := BitVec 64

/-- `BlockNumber`, a `u32`. -/
abbrev BlockNumber : Type := BitVec 32

/-- `Moment`, a `u64`. -/
abbrev Moment : Type := BitVec 64

/-- `StrBytes`, a `Vec<u8>`. -/
abbrev StrBytes : Type := List UInt8

/-- Who a call is dispatched for. -/
inductive Origin (AccountId : Type) where
  /-- The administrator. -/
  | root : Origin AccountId
  /-- An account that signed the call. -/
  | signed (who : AccountId) : Origin AccountId
  /-- Nobody: the call came in unsigned. -/
  | none : Origin AccountId

/-- The errors of the generic-asset pallet. -/
inductive GenericAsset.Error where
  | noIdAvailable
  | zeroAmount
  | noUpdatePermission
  | noMintPermission
  | noBurnPermission
  | totalMintingOverflow
  | freeMintingOverflow
  | totalBurningUnderflow
  | freeBurningUnderflow
  | idAlreadyTaken
  | idUnavailable
  | insufficientBalance
  | insufficientReservedBalance
  | missingLock
  | noLockMeetRequirement
  deriving DecidableEq

/-- The errors of the deposit-loan pallet. -/
inductive DepositLoan.Error where
  | reachLoanCap
  | invalidCollateralLoanAmounts
  | overLTVLimit
  deriving DecidableEq

/-- What a call may fail with. -/
inductive DispatchError where
  /-- The origin is not the one the call asks for. -/
  | badOrigin
  /-- A failed check that carries a message. -/
  | other (message : String)
  /-- An error of the generic-asset pallet. -/
  | genericAsset (e : GenericAsset.Error)
  /-- An error of the deposit-loan pallet. -/
  | depositLoan (e : DepositLoan.Error)
  deriving DecidableEq

open Pallet

variable {AccountId : Type} {β : Build} {σ : Type}

/-- Pass only for the administrator. -/
def ensureRoot : Origin AccountId → Exec β σ DispatchError Unit
  | .root => pure ()
  | _ => .fail .badOrigin

/-- The account that signed the call. -/
def ensureSigned : Origin AccountId → Exec β σ DispatchError AccountId
  | .signed who => pure who
  | _ => .fail .badOrigin

/-- Pass only for unsigned calls. -/
def ensureNone : Origin AccountId → Exec β σ DispatchError Unit
  | .none => pure ()
  | _ => .fail .badOrigin

section Origins

variable {origin : Origin AccountId} {E : DispatchError → σ → Prop} {P : Prop} {s : σ}

@[simp] theorem wp_ensureRoot {Q : Unit → σ → Prop} :
    Exec.wp (ensureRoot origin : Exec β σ DispatchError Unit) Q E P s ↔
      (origin = .root → Q () s) ∧ (origin ≠ .root → E .badOrigin s) := by
  cases origin <;> simp [ensureRoot]

@[simp] theorem wp_ensureSigned {Q : AccountId → σ → Prop} :
    Exec.wp (ensureSigned origin : Exec β σ DispatchError AccountId) Q E P s ↔
      (∀ who, origin = .signed who → Q who s) ∧
        ((∀ who, origin ≠ .signed who) → E .badOrigin s) := by
  cases origin <;> simp [ensureSigned]

@[simp] theorem wp_ensureNone {Q : Unit → σ → Prop} :
    Exec.wp (ensureNone origin : Exec β σ DispatchError Unit) Q E P s ↔
      (origin = .none → Q () s) ∧ (origin ≠ .none → E .badOrigin s) := by
  cases origin <;> simp [ensureNone]

end Origins

end MoneyPool
