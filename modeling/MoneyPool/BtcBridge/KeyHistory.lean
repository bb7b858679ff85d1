import MoneyPool.Pallet.Simulation
import MoneyPool.BtcBridge.SubKeys

/-!
# Keys are derived once

The administrator may change what keys are derived from at any time. A key that has been derived
stays as it is, though: the key of an account and a path is that of the first call which asks for it
and gets one, and comes from what keys were derived from at that time. Who else asks, and for what,
does not matter. `MoneyPool.BtcBridge.keyAfter` says this by recursion over the calls, without any
storage, and `MoneyPool.BtcBridge.subkeys_of_run` that the storage is what it says.
-/

namespace MoneyPool

namespace BtcBridge

open Pallet Pallet.Exec

variable {AccountId : Type} {β : Build} (hkd : Hkd32) (deriveSubkey : DeriveSubkey)

/-! ### The key of a path -/

/-- That a key can be derived for a path. -/
def Hkd32.Derivable (pathInput : StrBytes) : Prop :=
  hkd.delimiter.val < 128 ∧ ∀ x ∈ hkd.pieces pathInput, hkd.isComponent x = true

instance (pathInput : StrBytes) : Decidable (hkd.Derivable pathInput) :=
  inferInstanceAs (Decidable (_ ∧ _))

/-- The key of a path, if there is something to derive it from. -/
def keyOf (material : Option KeyMaterial) (pathInput : StrBytes) : Option H256 :=
  if hkd.Derivable pathInput then material.map fun m => deriveSubkey m (hkd.pieces pathInput)
  else none

variable [DecidableEq AccountId]

/-- **The key of an account and a path after some calls**: the first one that the account gets. -/
def keyAfter (who : AccountId) (pathInput : StrBytes) :
    Option KeyMaterial → List (Origin AccountId × Call) → Option H256
  | _, [] => none
  | _, (.root, .setKeyMaterial m) :: is => keyAfter who pathInput (some m) is
  | material, (.signed who', .getSubkeyFromPath pathInput') :: is =>
    if who' = who ∧ pathInput' = pathInput then
      (keyOf hkd deriveSubkey material pathInput).or (keyAfter who pathInput material is)
    else keyAfter who pathInput material is
  | material, _ :: is => keyAfter who pathInput material is

/-! ### Calls -/

section Calls

variable {hkd deriveSubkey} {s s' s₀ : Store AccountId} {who : AccountId} {pathInput : StrBytes}

variable (hkd deriveSubkey) in
/-- **After a call that asks for a key**, it is stored, unless there was one or none can be
derived. -/
structure Store.Asked (s : Store AccountId) (who : AccountId) (pathInput : StrBytes)
    (t : Store AccountId) : Prop where
  material : t.keyMaterial = s.keyMaterial
  keys : ∀ who' pathInput', t.subKeyMap.get? (who', pathInput') =
    (s.subKeyMap.get? (who', pathInput')).or (if who = who' ∧ pathInput = pathInput'
      then keyOf hkd deriveSubkey s.keyMaterial pathInput' else none)

/-- Nothing is stored where there is a key or none can be derived. -/
theorem Store.Asked.refl (h : s.subKeyMap.containsKey (who, pathInput) = true ∨
    keyOf hkd deriveSubkey s.keyMaterial pathInput = none) :
    s.Asked hkd deriveSubkey who pathInput s := by
  refine ⟨rfl, fun who' pathInput' => ?_⟩
  split
  · rename_i heq
    obtain ⟨rfl, rfl⟩ := heq
    rcases h with hkey | hnone
    · rw [StorageMap.get?_of_containsKey hkey]
      rfl
    · rw [hnone, Option.or_none]
  · exact Option.or_none.symm

/-- **What a call that asks for a key does.** -/
theorem asked_of_next
    (hnext : next β hkd deriveSubkey (.signed who, .getSubkeyFromPath pathInput) s = some s') :
    s.Asked hkd deriveSubkey who pathInput s' := by
  have hspec : wp (dispatch β hkd deriveSubkey (.signed who) (.getSubkeyFromPath pathInput))
      (fun _ t => s.Asked hkd deriveSubkey who pathInput t)
      (fun _ t => s.Asked hkd deriveSubkey who pathInput t)
      (s.Asked hkd deriveSubkey who pathInput s) s := by
    simp only [dispatch, getSubkeyFromPath, wp_bind, wp_ensureSigned, wp_gets, wp_ensure, wp_ite,
      wp_pure, wp_pushComponents, wp_modify]
    refine ⟨?_, fun hno => absurd rfl (hno who)⟩
    rintro _ ⟨⟩
    refine ⟨fun hmaterial => ⟨fun hascii => ⟨fun hkey => .refl (Or.inl hkey),
      fun hfresh => ⟨fun hall => ?_, fun hno => .refl (Or.inr ?_)⟩⟩,
      fun hno => .refl (Or.inr ?_)⟩, fun hno => .refl (Or.inr ?_)⟩
    · -- a key is derived
      obtain ⟨m, hm⟩ := Option.isSome_iff_exists.mp hmaterial
      refine ⟨rfl, fun who' pathInput' => ?_⟩
      rw [StorageMap.get?_insert, hm]
      by_cases heq : who = who' ∧ pathInput = pathInput'
      · obtain ⟨rfl, rfl⟩ := heq
        have hderivable : hkd.Derivable pathInput := ⟨hascii, hall⟩
        have hnone : s.subKeyMap.get? (who, pathInput) = none := by
          rw [StorageMap.get?_eq_none_iff, ← StorageMap.containsKey_iff_mem]
          exact hfresh
        rw [if_pos rfl, if_pos ⟨rfl, rfl⟩, hnone, keyOf, if_pos hderivable]
        rfl
      · rw [if_neg heq, Option.or_none, if_neg]
        rintro ⟨⟩
        exact heq ⟨rfl, rfl⟩
    · exact if_neg fun hderivable => hno hderivable.2
    · exact if_neg fun hderivable => hno hderivable.1
    · rw [keyOf, Option.not_isSome_iff_eq_none.mp hno]
      exact ite_self _
  refine of_settled hspec (fun _ _ hx => ?_) (fun _ _ hx => ?_) (fun hx hsame heq => ?_) hnext
  · rw [next, hx]
  · rw [next, hx]
  · rw [next, hx] at heq
    exact Option.some.inj heq ▸ hsame

/-- **What keys are derived from** is what the administrator has set. -/
theorem setKeyMaterial_of_next {m : KeyMaterial}
    (hnext : next β hkd deriveSubkey (.root, .setKeyMaterial m) s = some s') :
    s' = { s with keyMaterial := some m } := (Option.some.inj hnext).symm

end Calls

/-! ### Runs -/

variable {hkd deriveSubkey} in
/-- **Keys are derived once.** After every run an account has for a path the key that it had before,
if it had one, and otherwise the key that it has got first in the run. -/
theorem subkeys_of_run {is : List (Origin AccountId × Call)} {s₀ s : Store AccountId}
    (hrun : run (next β hkd deriveSubkey) is s₀ = some s) (who : AccountId)
    (pathInput : StrBytes) :
    s.subKeyMap.get? (who, pathInput) = (s₀.subKeyMap.get? (who, pathInput)).or
      (keyAfter hkd deriveSubkey who pathInput s₀.keyMaterial is) := by
  induction is generalizing s₀ with
  | nil =>
    cases hrun
    rw [keyAfter, Option.or_none]
  | cons i is ih =>
    obtain ⟨s₁, hi, his⟩ := Option.bind_eq_some_iff.mp hrun
    obtain ⟨origin, call⟩ := i
    rw [ih his]
    have hsame (hnone : s₁ = s₀) : (s₁.subKeyMap.get? (who, pathInput)).or
        (keyAfter hkd deriveSubkey who pathInput s₁.keyMaterial is) =
          (s₀.subKeyMap.get? (who, pathInput)).or
            (keyAfter hkd deriveSubkey who pathInput s₀.keyMaterial is) := by rw [hnone]
    cases call with
    | setKeyMaterial m =>
      cases origin with
      | root =>
        rw [keyAfter, setKeyMaterial_of_next hi]
      | _ => exact hsame (Option.some.inj hi).symm
    | getSubkeyFromPath pathInput' =>
      cases origin with
      | signed who' =>
        have hasked := asked_of_next hi
        rw [keyAfter, hasked.material, hasked.keys, Option.or_assoc]
        congr 1
        split
        · rfl
        · rfl
      | _ => exact hsame (Option.some.inj hi).symm

/-- A derivation that adds up the bytes of the components. -/
def exampleDerive : DeriveSubkey := fun material pathBuf =>
  material + (pathBuf.flatten.map fun x => BitVec.ofNat 256 x.toNat).sum

/-- The key of a path comes from what was set before it was asked for. -/
theorem subkeys_of_run_example :
    ∃ s, run (next .release exampleHkd exampleDerive)
        [(.root, .setKeyMaterial 7), (.signed 5, .getSubkeyFromPath [47, 97]),
          (.root, .setKeyMaterial 8), (.signed 5, .getSubkeyFromPath [47, 97])] exampleStore =
        some s ∧
      s.subKeyMap.get? (5, [47, 97]) = some (exampleDerive 7 [[97]]) := by
  obtain ⟨s, hrun⟩ : ∃ s, run (next .release exampleHkd exampleDerive)
      [(.root, .setKeyMaterial 7), (.signed 5, .getSubkeyFromPath [47, 97]),
        (.root, .setKeyMaterial 8), (.signed 5, .getSubkeyFromPath [47, 97])] exampleStore =
      some s := ⟨_, rfl⟩
  exact ⟨s, hrun, subkeys_of_run hrun 5 [47, 97]⟩

end BtcBridge

end MoneyPool
