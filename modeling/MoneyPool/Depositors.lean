import MoneyPool.Effect

/-!
# Depositors

The dtokens on the market are meant to be the dtokens of the depositors. A stake
gives both the same; a redeem takes what it pays out off the market and leaves it
with the depositor. So the two agree as long as nobody with dtokens is paid out
(`MoneyPool.dtokens_match`), and a depositor who is paid out once never gets more
than was staked (`MoneyPool.redeemed_le_staked`) – the second time may be different.
-/

namespace MoneyPool

open Pallet Pallet.Exec DepositLoan RuntimeState

variable {AccountId : Type} [DecidableEq AccountId] [Inhabited AccountId]

/-! ### The dtokens on the market -/

/-- What the dtokens of the depositors sum up to. -/
def DepositLoan.Store.dtokenSum (t : DepositLoan.Store AccountId) : ℕ :=
  t.userDtoken.total fun _ dtoken => dtoken.toNat

/-- **The dtokens on the market are those of the depositors.** -/
def DepositLoan.Store.DtokensMatch (t : DepositLoan.Store AccountId) : Prop :=
  t.marketDtoken.toNat = t.dtokenSum

/-- **When a step keeps track of the dtokens**: nobody who has any is paid out. -/
def RuntimeState.KeepsDtokens (s : RuntimeState AccountId) (i : Step AccountId) : Prop :=
  ∀ who assetId amount, i.redeem = some (who, assetId, amount) → s.saving.paused = false →
    s.CanRedeem who assetId amount → s.CanRedeemAll who → s.saving.userDtoken.get who = 0

variable {s s' : RuntimeState AccountId} {i : Step AccountId} {ok : Bool} {who : AccountId}
  {assetId : AssetId} {balance amount : Balance}

section Market

omit [Inhabited AccountId]

/-- A stake adds the same dtokens to the market and to the depositors. -/
theorem dtokenSum_staked (h : s.CanStake who assetId balance) :
    (s.staked who assetId balance).saving.dtokenSum =
      s.saving.dtokenSum + (s.dtokens balance).toNat := by
  have hold : s.saving.userDtoken.weight (fun _ dtoken => dtoken.toNat) who =
      (s.saving.userDtoken.get who).toNat := StorageMap.weight_eq (fun _ => rfl) _ _
  have hnew := StorageMap.total_insert (f := fun _ dtoken => dtoken.toNat) s.saving.userDtoken who
    (s.saving.userDtoken.get who + s.dtokens balance)
  rw [hold, BitVec.toNat_add_of_lt h.entry] at hnew
  simp only [staked, Store.dtokenSum]
  omega

theorem dtokensMatch_staked (h : s.CanStake who assetId balance) :
    (s.staked who assetId balance).saving.DtokensMatch ↔ s.saving.DtokensMatch := by
  rw [Store.DtokensMatch, dtokenSum_staked h, staked, Store.DtokensMatch]
  rw [BitVec.toNat_add_of_lt h.market]
  exact Nat.add_right_cancel_iff

/-- A redeem keeps track of the dtokens exactly if what it pays out is nothing. -/
theorem dtokensMatch_redeemed (h : s.Redeemed who assetId amount s') :
    s'.saving.DtokensMatch ↔ (s.paidOut who).saving.DtokensMatch := by
  cases h with
  | restaked hcan => exact dtokensMatch_staked hcan
  | kept => rfl

end Market

/-- **The dtokens match** after every step that keeps track of them. -/
theorem Effect.dtokensMatch (h : Effect s i ok s') (hm : s.saving.DtokensMatch)
    (hi : s.KeepsDtokens i) : s'.saving.DtokensMatch := by
  cases h with
  | set call f hf => cases call <;> cases hf <;> exact hm
  | staked who assetId amount hstake hopen hasset hcan => exact (dtokensMatch_staked hcan).mpr hm
  | redeemed who assetId amount hredeem hopen hcan hred =>
    refine (dtokensMatch_redeemed hred).mpr ?_
    unfold paidOut
    split
    · rename_i hall
      have hzero := hi who assetId amount hredeem hopen hcan hall
      rw [redeemedAll, Store.DtokensMatch, hzero, sub_zero]
      exact hm
    · exact hm
  | hook height hsteps =>
    induction hsteps with
    | refl => exact hm
    | tail _ hstep ih => cases hstep <;> exact ih
  | _ => exact hm

/-- **MarketDtoken is the sum of UserDtoken** over all accounts, in every state that
is reached without paying out a depositor who has dtokens. -/
theorem dtokens_match {config : GenesisConfig AccountId} {s₀ : RuntimeState AccountId}
    (hgenesis : config.build = some s₀) (hmarket : config.depositLoan.marketDtoken = 0)
    (hreach : Reach next (fun s i => s.KeepsDtokens i) s₀ s) :
    s.saving.marketDtoken.toNat = ∑ᶠ who, (s.saving.userDtoken.get who).toNat := by
  have hmatch : s.saving.DtokensMatch := by
    refine hreach.invariant (I := fun s => s.saving.DtokensMatch) ?_ ?_
    · rw [config.saving_of_build hgenesis, Store.DtokensMatch, DepositLoan.GenesisConfig.build,
        hmarket]
      rfl
    · intro s i s' hm hi hnext
      obtain ⟨ok, heff⟩ := next_effect hnext
      exact heff.dtokensMatch hm hi
  exact hmatch.trans (StorageMap.total_eq_finsum (fun _ => rfl) _)

theorem dtokens_match_example : ∃ s, next (signedCall 5 (.staking 0 100)) exampleState = some s ∧
    s.saving.marketDtoken = 100 ∧
      s.saving.marketDtoken.toNat = ∑ᶠ who, (s.saving.userDtoken.get who).toNat := by
  obtain ⟨s, hnext, hmarket⟩ := exists_of_any (p := fun s => s.saving.marketDtoken = 100)
    (o := next (signedCall 5 (.staking 0 100)) exampleState) (by decide +kernel)
  have hkeeps : exampleState.KeepsDtokens (signedCall 5 (.staking 0 100)) := by
    rintro _ _ _ ⟨⟩
  exact ⟨s, hnext, hmarket,
    dtokens_match exampleConfig_build rfl (Reach.refl.tail hkeeps hnext)⟩

/-- A depositor is paid out everything and keeps the dtokens. -/
theorem dtokens_mismatch : ¬∀ s, Reach next (fun _ i => i.isDepositLoan = true) exampleState s →
    s.saving.marketDtoken.toNat = ∑ᶠ who, (s.saving.userDtoken.get who).toNat := by
  intro h
  obtain ⟨s, hrun, hmarket, hsum⟩ := exists_of_any
    (p := fun s => s.saving.marketDtoken = 0 ∧ s.saving.dtokenSum = 100)
    (o := run next [signedCall 5 (.staking 0 100), signedCall 5 (.redeem 0 100)] exampleState)
    (by decide +kernel)
  have heq := h s (reach_of_run hrun (by decide))
  rw [← StorageMap.total_eq_finsum (f := fun _ (dtoken : Balance) => dtoken.toNat) (fun _ => rfl),
    hmarket] at heq
  exact absurd (heq.trans hsum) (by decide)

/-! ### What a depositor gets back -/

/-- The calls that stake and redeem. -/
def Step.isSaving : Step AccountId → Bool
  | .extrinsic _ (.depositLoan (.staking _ _)) => true
  | .extrinsic _ (.depositLoan (.sudoStaking _ _ _)) => true
  | .extrinsic _ (.depositLoan (.redeem _ _)) => true
  | .extrinsic _ (.depositLoan (.sudoRedeem _ _ _)) => true
  | _ => false

/-- What an account gains of the collection asset in a transition. -/
def gain (who : AccountId) (s s' : RuntimeState AccountId) : ℤ :=
  (s'.assets.free s.saving.collectionAssetId who).toNat -
    (s.assets.free s.saving.collectionAssetId who).toNat

/-- What an account gains in a transition that is a redeem for it. -/
def paidIn (who : AccountId) (s : RuntimeState AccountId) (i : Step AccountId)
    (s' : RuntimeState AccountId) : ℤ :=
  if i.redeem.map Prod.fst = some who then gain who s s' else 0

/-- What an account loses in a transition that is a stake for it. -/
def stakedIn (who : AccountId) (s : RuntimeState AccountId) (i : Step AccountId)
    (s' : RuntimeState AccountId) : ℤ :=
  if i.stake.map Prod.fst = some who then -gain who s s' else 0

/-- The transitions of a run. -/
abbrev Transitions (AccountId : Type) : Type :=
  List (RuntimeState AccountId × Step AccountId × RuntimeState AccountId)

/-- What the redeems of a run pay out to an account. -/
def paidTo (who : AccountId) (es : Transitions AccountId) : ℤ :=
  (es.map fun e => paidIn who e.1 e.2.1 e.2.2).sum

/-- What an account stakes in a run. -/
def stakedBy (who : AccountId) (es : Transitions AccountId) : ℤ :=
  (es.map fun e => stakedIn who e.1 e.2.1 e.2.2).sum

/-- The account that a step pays out, if it pays out one: the redeem passes its
checks, and there is something to pay out. -/
def payee (s : RuntimeState AccountId) (i : Step AccountId) : Option AccountId :=
  match i.redeem with
  | some (who, assetId, amount) =>
    if s.saving.paused = false ∧ s.CanRedeem who assetId amount ∧ s.CanRedeemAll who ∧
        s.saving.userDtoken.get who ≠ 0 then some who
    else none
  | none => none

/-- The accounts that are paid out along a run. -/
def payees (es : Transitions AccountId) : List AccountId :=
  es.filterMap fun e => payee e.1 e.2.1

/-- That the dtokens are worth what they were given for: without interest, one unit
of the collection asset each. -/
def RuntimeState.AtPar (s : RuntimeState AccountId) : Prop :=
  s.saving.marketDtoken = s.saving.totalDtoken

section AtPar

omit [Inhabited AccountId]

variable {w : AccountId}

/-- At par a stake is given as many dtokens. -/
theorem RuntimeState.AtPar.dtokens (hpar : s.AtPar) (h : s.CanStake who assetId balance) :
    s.dtokens balance = balance := by
  unfold RuntimeState.dtokens
  split
  · rfl
  · rename_i hT
    have hprod := h.product hT
    have hpos : 0 < s.saving.totalDtoken.toNat := by
      refine Nat.pos_of_ne_zero fun hz => hT (BitVec.eq_of_toNat_eq hz)
    refine BitVec.eq_of_toNat_eq ?_
    rw [BitVec.toNat_udiv, BitVec.toNat_mul_of_lt hprod, hpar]
    exact Nat.mul_div_cancel _ hpos

/-- At par an account's dtokens are worth their number. -/
theorem RuntimeState.AtPar.redeemable (hpar : s.AtPar) (hT : s.saving.totalDtoken ≠ 0) :
    s.redeemable who = s.saving.userDtoken.get who := by
  have hpos : 0 < s.saving.totalDtoken.toNat := by
    refine Nat.pos_of_ne_zero fun hz => hT (BitVec.eq_of_toNat_eq hz)
  refine BitVec.eq_of_toNat_eq ?_
  rw [RuntimeState.redeemable, hpar, BitVec.toNat_udiv, BitVec.toNat_udiv, Nat.div_self hpos,
    Nat.div_one]

theorem RuntimeState.AtPar.staked (hpar : s.AtPar) (h : s.CanStake who assetId balance) :
    (s.staked who assetId balance).AtPar := by
  rw [AtPar, RuntimeState.staked, hpar.dtokens h]

theorem RuntimeState.AtPar.paidOut (hpar : s.AtPar) (hT : s.saving.totalDtoken ≠ 0) :
    (s.paidOut who).AtPar := by
  unfold RuntimeState.paidOut
  split
  · rw [AtPar, redeemedAll, hpar.redeemable hT, hpar]
  · exact hpar

/-- The dtokens of an account after a stake at par. -/
theorem RuntimeState.AtPar.userDtoken_staked (hpar : s.AtPar)
    (h : s.CanStake who assetId balance) :
    ((s.staked who assetId balance).saving.userDtoken.get w).toNat =
      (s.saving.userDtoken.get w).toNat + if w = who then balance.toNat else 0 := by
  have hentry := h.entry
  rw [hpar.dtokens h] at hentry
  simp only [RuntimeState.staked, StorageMap.get_insert, hpar.dtokens h]
  split
  · rename_i hw
    rw [hw, BitVec.toNat_add_of_lt hentry]
  · rfl

/-- What an account gains in a stake that is made for it or for somebody else. -/
theorem gain_staked (h : s.CanStake who assetId balance)
    (hasset : s.saving.collectionAssetId = assetId) (hw : w ≠ s.saving.collectionAccountId) :
    gain w s (s.staked who assetId balance) = -if w = who then (balance.toNat : ℤ) else 0 := by
  unfold gain RuntimeState.staked
  rw [hasset]
  split
  · rename_i heq
    subst heq
    rw [GenericAsset.Store.free_moved_from hw, BitVec.toNat_sub_of_le h.covered]
    have := BitVec.le_def.mp h.covered
    omega
  · rename_i hne
    rw [GenericAsset.Store.free_moved_of_ne hne hw]
    omega

/-- What an account gains when it is paid out, or somebody else is. -/
theorem gain_paidOut (hpar : s.AtPar) (hT : s.saving.totalDtoken ≠ 0)
    (hw : w ≠ s.saving.collectionAccountId) :
    gain w s (s.paidOut who) ≤
      if w = who ∧ s.CanRedeemAll who then ((s.saving.userDtoken.get who).toNat : ℤ) else 0 := by
  unfold gain RuntimeState.paidOut
  by_cases hall : s.CanRedeemAll who
  · rw [if_pos hall, redeemedAll]
    by_cases heq : w = who
    · subst heq
      rw [if_pos ⟨rfl, hall⟩, GenericAsset.Store.free_moved_to (Ne.symm hw), hpar.redeemable hT,
        BitVec.toNat_add]
      have := Nat.mod_le ((s.assets.free s.saving.collectionAssetId w).toNat +
        (s.saving.userDtoken.get w).toNat) (2 ^ 128)
      omega
    · rw [if_neg fun h => heq h.1, GenericAsset.Store.free_moved_of_ne hw heq]
      omega
  · rw [if_neg hall, if_neg fun h => hall h.2]
    omega

/-- Gains add up. -/
theorem gain_add {s₁ : RuntimeState AccountId}
    (hasset : s₁.saving.collectionAssetId = s.saving.collectionAssetId) :
    gain w s s' = gain w s s₁ + gain w s₁ s' := by
  unfold gain
  rw [hasset]
  omega

/-- **A redeem for an account**, from its side: it gains no more than it is paid out,
and if nothing is paid out, it gains no dtokens that it does not pay for. -/
theorem redeemed_self (hpar : s.AtPar) (hcan : s.CanRedeem w assetId amount)
    (hw : w ≠ s.saving.collectionAccountId) (hred : s.Redeemed w assetId amount s') :
    gain w s s' ≤ gain w s (s.paidOut w) ∧
      gain w s s' + (s'.saving.userDtoken.get w).toNat ≤
        gain w s (s.paidOut w) + (s.saving.userDtoken.get w).toNat := by
  have hpar₁ : (s.paidOut w).AtPar := hpar.paidOut hcan.total
  cases hred with
  | restaked hcan₁ =>
    have hgain := gain_staked hcan₁ ((s.paidOut_collectionAssetId w).trans hcan.asset)
      (w := w) (by rwa [paidOut_collectionAccountId])
    have hdt := hpar₁.userDtoken_staked hcan₁ (w := w)
    rw [if_pos rfl] at hgain hdt
    rw [gain_add (s.paidOut_collectionAssetId w), hgain, hdt, paidOut_userDtoken]
    omega
  | kept => exact ⟨le_rfl, by rw [paidOut_userDtoken]⟩

/-- The others keep their dtokens in a redeem. -/
theorem redeemed_other (hpar : s.AtPar) (hcan : s.CanRedeem who assetId amount)
    (hred : s.Redeemed who assetId amount s') (hne : w ≠ who) :
    (s'.saving.userDtoken.get w).toNat = (s.saving.userDtoken.get w).toNat := by
  cases hred with
  | restaked hcan₁ =>
    rw [(hpar.paidOut hcan.total).userDtoken_staked hcan₁, if_neg hne, paidOut_userDtoken,
      add_zero]
  | kept => rw [paidOut_userDtoken]

/-- A redeem stays at par, and in the same account. -/
theorem RuntimeState.AtPar.redeemed (hpar : s.AtPar) (hcan : s.CanRedeem who assetId amount)
    (hred : s.Redeemed who assetId amount s') :
    s'.AtPar ∧ s'.saving.collectionAccountId = s.saving.collectionAccountId := by
  have hpar₁ : (s.paidOut who).AtPar := hpar.paidOut hcan.total
  cases hred with
  | restaked hcan₁ => exact ⟨hpar₁.staked hcan₁, s.paidOut_collectionAccountId who⟩
  | kept => exact ⟨hpar₁, s.paidOut_collectionAccountId who⟩

end AtPar

omit [DecidableEq AccountId] [Inhabited AccountId] in
theorem redeem_eq_none {x : AccountId × AssetId × Balance} (h : i.stake = some x) :
    i.redeem = none := by
  unfold Step.stake at h
  split at h
  · rfl
  · rfl
  · cases h

omit [DecidableEq AccountId] [Inhabited AccountId] in
theorem stake_eq_none {x : AccountId × AssetId × Balance} (h : i.redeem = some x) :
    i.stake = none := by
  unfold Step.redeem at h
  split at h
  · rfl
  · rfl
  · cases h

/-- **One step of a run of stakes and redeems**, at par, from the side of an account.
If it is paid out, it gets at most its dtokens; if not, what it gets and its dtokens
grow by no more than what it stakes. -/
theorem saving_step {w : AccountId} (hnext : next i s = some s') (hi : i.isSaving = true)
    (hpar : s.AtPar) (hw : w ≠ s.saving.collectionAccountId) :
    s'.AtPar ∧ s'.saving.collectionAccountId = s.saving.collectionAccountId ∧
      0 ≤ stakedIn w s i s' ∧
      (payee s i = some w → paidIn w s i s' ≤ (s.saving.userDtoken.get w).toNat) ∧
      (payee s i ≠ some w → paidIn w s i s' ≤ 0 ∧
        paidIn w s i s' + (s'.saving.userDtoken.get w).toNat ≤
          (s.saving.userDtoken.get w).toNat + stakedIn w s i s') := by
  obtain ⟨ok, heff⟩ := next_effect hnext
  cases heff with
  | unchanged =>
    have hgain : gain w s s = 0 := sub_self _
    simp [paidIn, stakedIn, hgain, hpar]
  | staked who assetId amount hstake hopen hasset hcan =>
    have hgain := gain_staked hcan hasset hw
    have hpay : paidIn w s i (s.staked who assetId amount) = 0 := by
      simp [paidIn, redeem_eq_none hstake]
    have hdt := hpar.userDtoken_staked hcan (w := w)
    -- the stake is one of the account, or does not concern it
    by_cases heq : w = who
    · have hstk : stakedIn w s i (s.staked who assetId amount) = amount.toNat := by
        rw [stakedIn, if_pos (by rw [hstake, heq]; rfl), hgain, if_pos heq, neg_neg]
      rw [if_pos heq] at hdt
      refine ⟨hpar.staked hcan, rfl, ?_, ?_, ?_⟩
      · omega
      · omega
      · omega
    · have hstk : stakedIn w s i (s.staked who assetId amount) = 0 := by
        rw [stakedIn, hstake, Option.map_some, if_neg fun h => heq (Option.some.inj h).symm]
      rw [if_neg heq] at hdt
      refine ⟨hpar.staked hcan, rfl, ?_, ?_, ?_⟩
      · omega
      · omega
      · omega
  | redeemed who assetId amount hredeem hopen hcan hred =>
    obtain ⟨hpar', haccount⟩ := hpar.redeemed hcan hred
    have hstk : stakedIn w s i s' = 0 := by
      simp [stakedIn, stake_eq_none hredeem]
    refine ⟨hpar', haccount, hstk.ge, ?_⟩
    by_cases heq : w = who
    · subst heq
      have hpay : paidIn w s i s' = gain w s s' := by
        rw [paidIn, if_pos (by rw [hredeem]; rfl)]
      obtain ⟨hle, hsum⟩ := redeemed_self hpar hcan hw hred
      have hout : gain w s (s.paidOut w) ≤ if w = w ∧ s.CanRedeemAll w then
          ((s.saving.userDtoken.get w).toNat : ℤ) else 0 := gain_paidOut hpar hcan.total hw
      refine ⟨fun _ => ?_, fun hnot => ?_⟩
      · split at hout <;> omega
      · -- nothing is paid out: the attempt fails, or there is nothing to pay out
        have hzero : gain w s (s.paidOut w) ≤ 0 := by
          by_cases hall : s.CanRedeemAll w
          · have hnone : s.saving.userDtoken.get w = 0 := by
              by_contra hne
              refine hnot ?_
              simp only [payee, hredeem]
              exact if_pos ⟨hopen, hcan, hall, hne⟩
            rw [if_pos ⟨rfl, hall⟩, hnone] at hout
            exact hout
          · rwa [if_neg fun h => hall h.2] at hout
        omega
    · have hpay : paidIn w s i s' = 0 := by
        rw [paidIn, hredeem, Option.map_some, if_neg fun h => heq (Option.some.inj h).symm]
      have hdt := redeemed_other hpar hcan hred heq
      exact ⟨fun _ => by omega, fun _ => by omega⟩
  | set call f hf => cases call <;> cases hf <;> exact absurd hi Bool.false_ne_true
  | _ => exact absurd hi Bool.false_ne_true

section Runs

variable {w : AccountId} {is : List (Step AccountId)}

/-- Somebody who is not paid out in a run gets nothing that was not staked. -/
theorem paidTo_le_of_not_paid (hsaving : ∀ i ∈ is, i.isSaving = true) (hpar : s.AtPar)
    (hw : w ≠ s.saving.collectionAccountId) (hnot : w ∉ payees (trace next is s)) :
    paidTo w (trace next is s) ≤ stakedBy w (trace next is s) := by
  induction is generalizing s with
  | nil => exact le_rfl
  | cons i is ih =>
    cases hnext : next i s with
    | none => rw [trace_cons_of_none hnext]; exact le_rfl
    | some s' =>
      rw [trace_cons_of_some hnext] at hnot ⊢
      obtain ⟨hpar', haccount, hstk, -, hunpaid⟩ :=
        saving_step hnext (hsaving i (List.mem_cons_self ..)) hpar hw
      have hfirst : payee s i ≠ some w := by
        intro h
        exact hnot (List.mem_filterMap.mpr ⟨_, List.mem_cons_self .., h⟩)
      have hrest : w ∉ payees (trace next is s') := by
        intro h
        obtain ⟨e, he, hpayee⟩ := List.mem_filterMap.mp h
        exact hnot (List.mem_filterMap.mpr ⟨e, List.mem_cons_of_mem _ he, hpayee⟩)
      have hle := ih (fun j hj => hsaving j (List.mem_cons_of_mem _ hj)) hpar'
        (haccount ▸ hw) hrest
      have := (hunpaid hfirst).1
      simp only [paidTo, stakedBy, List.map_cons, List.sum_cons] at hle ⊢
      omega

/-- **Along a run** in which nobody is paid out twice, an account gets no more than
its dtokens and what it stakes. -/
theorem paidTo_le (hsaving : ∀ i ∈ is, i.isSaving = true) (hpar : s.AtPar)
    (hw : w ≠ s.saving.collectionAccountId) (honce : (payees (trace next is s)).Nodup) :
    paidTo w (trace next is s) ≤
      (s.saving.userDtoken.get w).toNat + stakedBy w (trace next is s) := by
  induction is generalizing s with
  | nil => simp [paidTo, stakedBy]
  | cons i is ih =>
    cases hnext : next i s with
    | none =>
      rw [trace_cons_of_none hnext]
      simp [paidTo, stakedBy]
    | some s' =>
      rw [trace_cons_of_some hnext] at honce ⊢
      obtain ⟨hpar', haccount, hstk, hpaid, hunpaid⟩ :=
        saving_step hnext (hsaving i (List.mem_cons_self ..)) hpar hw
      have hsaving' : ∀ j ∈ is, j.isSaving = true := fun j hj =>
        hsaving j (List.mem_cons_of_mem _ hj)
      simp only [paidTo, stakedBy, List.map_cons, List.sum_cons]
      by_cases hfirst : payee s i = some w
      · -- paid out now, and so not later
        have hrest : w ∉ payees (trace next is s') := by
          have hcons : payees ((s, i, s') :: trace next is s') =
              w :: payees (trace next is s') := List.filterMap_cons_some hfirst
          rw [hcons] at honce
          exact (List.nodup_cons.mp honce).1
        have hle := paidTo_le_of_not_paid hsaving' hpar' (haccount ▸ hw) hrest
        have := hpaid hfirst
        simp only [paidTo, stakedBy] at hle
        omega
      · have hrest : (payees (trace next is s')).Nodup := by
          refine honce.sublist ?_
          exact (List.sublist_cons_self ..).filterMap _
        have hle := ih hsaving' hpar' (haccount ▸ hw) hrest
        have := (hunpaid hfirst).2
        simp only [paidTo, stakedBy] at hle
        omega

end Runs

/-- **No over-withdrawal**: in a run of stakes and redeems in which no account is paid
out twice, the redeems pay an account no more than it stakes. -/
theorem redeemed_le_staked {config : GenesisConfig AccountId} {s₀ : RuntimeState AccountId}
    (hgenesis : config.build = some s₀) (hmarket : config.depositLoan.marketDtoken = 0)
    (htotal : config.depositLoan.totalDtoken = 0) {is : List (Step AccountId)}
    (hsaving : ∀ i ∈ is, i.isSaving = true) (honce : (payees (trace next is s₀)).Nodup)
    {w : AccountId} (hw : w ≠ config.depositLoan.collectionAccountId) :
    paidTo w (trace next is s₀) ≤ stakedBy w (trace next is s₀) := by
  have hsav := config.saving_of_build hgenesis
  have hpar : s₀.AtPar := by
    rw [AtPar, hsav, DepositLoan.GenesisConfig.build, hmarket, htotal]
  have hacc : w ≠ s₀.saving.collectionAccountId := by
    rwa [hsav]
  have hzero : (s₀.saving.userDtoken.get w).toNat = 0 := by
    rw [hsav]
    rfl
  have hle := paidTo_le hsaving hpar hacc honce
  omega

/-- Two depositors, each of them paid out once. -/
def exampleSavings : List (Step ℕ) :=
  [signedCall 5 (.staking 0 100), signedCall 6 (.staking 0 100), signedCall 5 (.redeem 0 60),
    signedCall 6 (.redeem 0 100)]

theorem redeemed_le_staked_example :
    paidTo 5 (trace next exampleSavings exampleState) = 60 ∧
      paidTo 5 (trace next exampleSavings exampleState) ≤
        stakedBy 5 (trace next exampleSavings exampleState) :=
  ⟨by decide +kernel, redeemed_le_staked exampleConfig_build rfl rfl (by decide +kernel)
    (by decide +kernel) (by decide)⟩

/-- One of two depositors redeems everything twice. -/
theorem redeemed_gt_staked : ¬∀ is : List (Step ℕ), (∀ i ∈ is, i.isSaving = true) → ∀ w,
    w ≠ exampleConfig.depositLoan.collectionAccountId →
      paidTo w (trace next is exampleState) ≤ stakedBy w (trace next is exampleState) := by
  intro h
  have hle := h [signedCall 5 (.staking 0 100), signedCall 6 (.staking 0 100),
    signedCall 5 (.redeem 0 100), signedCall 5 (.redeem 0 100)] (by decide +kernel) 5 (by decide)
  revert hle
  decide +kernel

end MoneyPool
