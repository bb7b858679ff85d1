import MoneyPool.Effect

/-!
# What a redeem pays

A redeem runs two halves and ignores the error of either: it pays out everything that the
account's dtokens are worth, and stakes again what was not asked for. That comes to the amount
asked for if both halves go through. If the pool cannot pay out everything, the second half still
takes what was not asked for – out of the account's own pocket, since nothing has been paid.

`MoneyPool.redeem_exact_iff` says for every state in which cases a redeem that succeeds has paid
the amount, and that a redeem that fails has changed nothing.
-/

namespace MoneyPool

open Pallet Pallet.Exec DepositLoan RuntimeState

variable {AccountId : Type} [DecidableEq AccountId]

namespace RuntimeState

variable (s : RuntimeState AccountId) (who : AccountId) (amount : Balance)

/-- **An amount has been paid out**: the account has exactly so much more of the collection
asset, and the collection account so much less. -/
structure PaysOut (s' : RuntimeState AccountId) : Prop where
  received : (s'.assets.free s.saving.collectionAssetId who).toNat =
    (s.assets.free s.saving.collectionAssetId who).toNat + amount.toNat
  paid : (s'.assets.free s.saving.collectionAssetId s.saving.collectionAccountId).toNat +
    amount.toNat = s.cash.toNat

/-- **When a redeem pays the amount asked for**: everything can be paid out, and the account has
room for it; or nothing can, nothing is asked for, and nothing is staked again, because there is
nothing to stake or the account could not afford it. -/
inductive RedeemsExactly : Prop
  | paid (all : s.CanRedeemAll who)
      (room : (s.assets.free s.saving.collectionAssetId who).toNat +
        (s.redeemable who).toNat < 2 ^ 128)
  | nothing (short : ¬s.CanRedeemAll who) (asked : amount = 0)
      (kept : s.redeemable who = 0 ∨
        ¬s.redeemable who ≤ s.assets.free s.saving.collectionAssetId who)

end RuntimeState

variable {s s' : RuntimeState AccountId} {who : AccountId} {amount : Balance}

/-! ### The two halves -/

/-- The balances after everything has been paid out. -/
theorem redeemedAll_free (hwho : who ≠ s.saving.collectionAccountId) :
    (s.redeemedAll who).assets.free s.saving.collectionAssetId who =
        s.assets.free s.saving.collectionAssetId who + s.redeemable who ∧
      (s.redeemedAll who).assets.free s.saving.collectionAssetId s.saving.collectionAccountId =
        s.cash - s.redeemable who :=
  ⟨GenericAsset.Store.free_moved_to hwho.symm, GenericAsset.Store.free_moved_from hwho.symm⟩

/-- The balances after a stake. -/
theorem staked_free (assetId : AssetId) (amount : Balance)
    (hwho : who ≠ s.saving.collectionAccountId) :
    (s.staked who assetId amount).assets.free assetId who = s.assets.free assetId who - amount ∧
      (s.staked who assetId amount).assets.free assetId s.saving.collectionAccountId =
        s.assets.free assetId s.saving.collectionAccountId + amount :=
  ⟨GenericAsset.Store.free_moved_from hwho, GenericAsset.Store.free_moved_to hwho⟩

variable (s who amount s') in
omit [DecidableEq AccountId] in
/-- A payout as a fact about the two balances after it. -/
theorem paysOut_iff [DecidableEq AccountId] {f c : Balance}
    (hf : s'.assets.free s.saving.collectionAssetId who = f)
    (hc : s'.assets.free s.saving.collectionAssetId s.saving.collectionAccountId = c) :
    s.PaysOut who amount s' ↔
      f.toNat = (s.assets.free s.saving.collectionAssetId who).toNat + amount.toNat ∧
        c.toNat + amount.toNat = s.cash.toNat := by
  subst hf hc
  exact ⟨fun h => ⟨h.received, h.paid⟩, fun h => ⟨h.1, h.2⟩⟩

/-- **A redeem whose first half goes through** pays the amount if the account has room for
everything. -/
theorem paysOut_of_redeemAll (hwho : who ≠ s.saving.collectionAccountId)
    (hle : amount ≤ s.redeemable who) (hall : s.CanRedeemAll who)
    (hred : s.Redeemed who s.saving.collectionAssetId amount s') :
    s.PaysOut who amount s' ↔ (s.assets.free s.saving.collectionAssetId who).toNat +
      (s.redeemable who).toNat < 2 ^ 128 := by
  have hpaid : s.paidOut who = s.redeemedAll who := if_pos hall
  obtain ⟨hfree, hcash⟩ := redeemedAll_free (s := s) hwho
  have hcov := BitVec.le_def.mp hall.covered
  have hle' := BitVec.le_def.mp hle
  have hrest := BitVec.toNat_sub_of_le hle
  have hsum := toNat_add_cases (s.assets.free s.saving.collectionAssetId who) (s.redeemable who)
  have hbound := (s.assets.free s.saving.collectionAssetId who + s.redeemable who).isLt
  have htook := toNat_sub_cases s.cash (s.redeemable who)
  cases hred with
  | restaked h =>
    rw [hpaid] at h ⊢
    obtain ⟨hf, hc⟩ := staked_free (s := s.redeemedAll who) s.saving.collectionAssetId
      (s.redeemable who - amount) hwho
    -- everything is paid out, and what was not asked for is taken back
    have hcovered := h.covered
    rw [hfree] at hf hcovered
    rw [paysOut_iff s _ who amount hf (hc.trans (congrArg (· + _) hcash))]
    have hspent := BitVec.toNat_sub_of_le hcovered
    have hback := toNat_add_cases (s.cash - s.redeemable who) (s.redeemable who - amount)
    have hcovered' := BitVec.le_def.mp hcovered
    have hlt := s.cash.isLt
    omega
  | kept h =>
    rw [hpaid] at h ⊢
    rw [paysOut_iff s _ who amount hfree hcash]
    rw [hfree, BitVec.le_def, ← BitVec.toNat_inj] at h
    have hzero : (0 : Balance).toNat = 0 := rfl
    omega

/-- **A redeem whose first half fails** pays nothing. -/
theorem paysOut_of_not_redeemAll (hwho : who ≠ s.saving.collectionAccountId)
    (hall : ¬s.CanRedeemAll who)
    (hred : s.Redeemed who s.saving.collectionAssetId amount s') :
    s.PaysOut who amount s' ↔ amount = 0 ∧ (s.redeemable who = 0 ∨
      ¬s.redeemable who ≤ s.assets.free s.saving.collectionAssetId who) := by
  have hpaid : s.paidOut who = s := if_neg hall
  cases hred with
  | restaked h =>
    rw [hpaid] at h ⊢
    obtain ⟨hf, hc⟩ :=
      staked_free (s := s) s.saving.collectionAssetId (s.redeemable who - amount) hwho
    rw [paysOut_iff s _ who amount hf hc, BitVec.toNat_sub_of_le h.covered]
    -- what is staked again is taken from the account
    have hcovered := BitVec.le_def.mp h.covered
    have hpos : (s.redeemable who - amount).toNat ≠ 0 :=
      fun hno => h.ne_zero (BitVec.eq_of_toNat_eq hno)
    refine iff_of_false (fun hpay => by omega) ?_
    rintro ⟨rfl, hzero | hshort⟩
    · exact h.ne_zero (by rw [hzero, sub_self])
    · exact hshort (by simpa using h.covered)
  | kept h =>
    rw [hpaid] at h ⊢
    rw [paysOut_iff s _ who amount rfl rfl]
    constructor
    · rintro ⟨hno, -⟩
      have hzero : amount = 0 := BitVec.eq_of_toNat_eq (by simpa using hno)
      subst hzero
      rw [sub_zero] at h
      exact ⟨rfl, h⟩
    · rintro ⟨rfl, -⟩
      exact ⟨by simp, by simp [cash]⟩

/-! ### The calls -/

omit [DecidableEq AccountId] in
/-- The two calls that redeem. -/
theorem Step.eq_of_redeem {i : Step AccountId} {assetId : AssetId}
    (h : i.redeem = some (who, assetId, amount)) :
    i = .extrinsic (.signed who) (.depositLoan (.redeem assetId amount)) ∨
      i = .extrinsic .root (.depositLoan (.sudoRedeem assetId amount who)) := by
  unfold Step.redeem at h
  split at h
  · cases h
    exact Or.inl rfl
  · cases h
    exact Or.inr rfl
  · cases h

variable [Inhabited AccountId]

/-- A call that redeems and fails has changed nothing. -/
theorem Effect.eq_of_redeem {i : Step AccountId} {assetId : AssetId}
    (hi : i.redeem = some (who, assetId, amount)) (h : Effect s i false s') : s' = s := by
  rcases Step.eq_of_redeem hi with rfl | rfl
  · cases h
    rfl
  · cases h
    rfl

/-- A call that redeems and succeeds has run the two halves. -/
theorem Effect.redeemed_of_redeem {i : Step AccountId} {assetId : AssetId}
    (hi : i.redeem = some (who, assetId, amount)) (h : Effect s i true s') :
    s.CanRedeem who assetId amount ∧ s.Redeemed who assetId amount s' := by
  cases h with
  | redeemed who' assetId' amount' hi' hopen hcan hred =>
    cases hi.symm.trans hi'
    exact ⟨hcan, hred⟩
  | staked who' assetId' amount' hi' => rcases Step.eq_of_redeem hi with rfl | rfl <;> cases hi'
  | timed => cases hi
  | oracleCall => rcases Step.eq_of_redeem hi with h | h <;> cases h
  | aggregated => cases hi
  | ledgerCall => rcases Step.eq_of_redeem hi with h | h <;> cases h
  | set call f hf =>
    rcases Step.eq_of_redeem hi with h | h
    · cases h
    · cases h
      cases hf
  | _ => cases hi

/-- **A redeem pays the amount asked for or changes nothing** exactly in the cases listed: one
that returns an error has changed nothing, and one that succeeds has paid the amount if and only
if the redeem is exact. -/
theorem redeem_exact_iff {i : Step AccountId} {assetId : AssetId}
    (hi : i.redeem = some (who, assetId, amount)) (hwho : who ≠ s.saving.collectionAccountId) :
    (∀ e s', (i.exec : Prog .release AccountId Unit) s = .err e s' → s' = s) ∧
    ∀ s', (i.exec : Prog .release AccountId Unit) s = .ok () s' →
      (s.PaysOut who amount s' ↔ s.RedeemsExactly who amount) := by
  constructor
  · intro e s' hx
    exact ((wp_of_err hx).mp exec_effect).eq_of_redeem hi
  · intro s' hx
    obtain ⟨hcan, hred⟩ := (ok_effect hx).redeemed_of_redeem hi
    obtain rfl := hcan.asset
    by_cases hall : s.CanRedeemAll who
    · rw [paysOut_of_redeemAll hwho hcan.worth hall hred]
      refine ⟨fun hroom => .paid hall hroom, ?_⟩
      rintro (⟨-, hroom⟩ | ⟨hshort, -, -⟩)
      · exact hroom
      · exact absurd hall hshort
    · rw [paysOut_of_not_redeemAll hwho hall hred]
      refine ⟨fun h => .nothing hall h.1 h.2, ?_⟩
      rintro (⟨hall', -⟩ | ⟨-, hasked, hkept⟩)
      · exact absurd hall' hall
      · exact ⟨hasked, hkept⟩

/-- Account 5 stakes 100 and redeems 40. -/
theorem redeem_exact_example : ∃ s s',
    next (signedCall 5 (.staking 0 100)) exampleState = some s ∧
      ((signedCall 5 (.redeem 0 40)).exec : Prog .release ℕ Unit) s = .ok () s' ∧
      s.PaysOut 5 40 s' := by
  obtain ⟨s, hstake, hok, hall, hwho, hroom⟩ := exists_of_any
    (p := fun s => (((signedCall 5 (.redeem 0 40)).exec : Prog .release ℕ Unit) s).okState.isSome =
        true ∧ s.CanRedeemAll 5 ∧ 5 ≠ s.saving.collectionAccountId ∧
      (s.assets.free s.saving.collectionAssetId 5).toNat + (s.redeemable 5).toNat < 2 ^ 128)
    (o := next (signedCall 5 (.staking 0 100)) exampleState) (by decide +kernel)
  obtain ⟨s', hs'⟩ := Option.isSome_iff_exists.mp hok
  have hredeem := Outcome.eq_ok_of_okState hs'
  exact ⟨s, s', hstake, hredeem,
    ((redeem_exact_iff (i := signedCall 5 (.redeem 0 40)) rfl hwho).2 s' hredeem).mpr
      (.paid hall hroom)⟩

/-- **A redeem takes from the account**, and succeeds. Account 5 has staked 100 when account 6
borrows all but 50 of the savings; then it asks for 10, and 90 are taken from it. -/
theorem redeem_not_exact : ¬∀ s, Reachable next exampleState s →
    ∀ i who assetId amount, Step.redeem i = some (who, assetId, amount) →
      who ≠ s.saving.collectionAccountId →
        (∀ e s', (i.exec : Prog .release ℕ Unit) s = .err e s' → s' = s) ∧
        ∀ s', (i.exec : Prog .release ℕ Unit) s = .ok () s' → s.PaysOut who amount s' := by
  intro h
  obtain ⟨s, hrun, hwho, hok, hless⟩ := exists_of_any
    (p := fun s => 5 ≠ s.saving.collectionAccountId ∧
      (((signedCall 5 (.redeem 0 10)).exec : Prog .release ℕ Unit) s).okState.isSome = true ∧
      ((((signedCall 5 (.redeem 0 10)).exec : Prog .release ℕ Unit) s).okState.any fun s' =>
        (s'.assets.free s.saving.collectionAssetId 5).toNat + 90 =
          (s.assets.free s.saving.collectionAssetId 5).toNat) = true)
    (o := run next
      [signedCall 5 (.staking 0 100), signedCall 6 (.applyLoan (10 ^ 30) (10 ^ 30 + 50))]
      exampleState) (by decide +kernel)
  obtain ⟨s', hs'⟩ := Option.isSome_iff_exists.mp hok
  have hpay := (h s (reachable_of_run hrun) (signedCall 5 (.redeem 0 10)) 5 0 10 rfl hwho).2 s'
    (Outcome.eq_ok_of_okState hs')
  rw [hs', Option.any_some, decide_eq_true_eq] at hless
  have hmore := hpay.received
  have hten : (10 : Balance).toNat = 10 := rfl
  omega

end MoneyPool
