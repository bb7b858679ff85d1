import MoneyPool.GenericAsset.Entries
import MoneyPool.Effect

/-!
# Who pays in a run of the chain

The chain keeps the book of its ledger: `MoneyPool.RuntimeState.Authorises` lists every payment
that a step can make, by whose authority and from which account, those of calls that fail halfway
included, and there are no others (`MoneyPool.chain_keeps_book`). From any genesis whose endowments
are counted, every run is therefore a list of authorised entries on a sound book
(`MoneyPool.accounted_for`), and nobody loses anything who does not act and is not an account of
the pool (`MoneyPool.bystander_keeps`).
-/

namespace MoneyPool

open Pallet Pallet.Exec DepositLoan RuntimeState GenericAsset

variable {AccountId : Type} [DecidableEq AccountId] [Inhabited AccountId]

/-! ### What a step may pay -/

/-- A payment of free balance. -/
def payment (assetId : AssetId) (fromAccount toAccount : AccountId) (amount : Balance) :
    Entry AssetId (AccountId × Pocket) :=
  .pay assetId (fromAccount, .free) (toAccount, .free) amount.toNat

/-- A borrower repays a loan. -/
structure RuntimeState.Repays (s : RuntimeState AccountId) (i : Step AccountId) (who : AccountId)
    (loanId : LoanId) : Prop where
  step : i = .extrinsic (.signed who) (.depositLoan (.repayLoan loanId))
  owner : (s.saving.loans.get loanId).who = who

/-- The liquidation account has sold the collateral of a loan in liquidation. -/
structure RuntimeState.Auctions (s : RuntimeState AccountId) (i : Step AccountId) (loanId : LoanId)
    (auctionBalance : Balance) : Prop where
  step : i = .extrinsic (.signed s.saving.liquidationAccount)
    (.depositLoan (.markLiquidated loanId auctionBalance))
  liquidating : s.saving.checkLoanInLiquidation (s.saving.loans.get loanId).id = true

/-- **What a step of the chain may post**, and by whose authority. -/
inductive RuntimeState.Authorises (s : RuntimeState AccountId) :
    Step AccountId → Entry AssetId (AccountId × Pocket) → Prop
  /-- A call of the ledger posts what it may post there. -/
  | ledger (origin : Origin AccountId) (call : GenericAsset.Call AccountId)
      (e : Entry AssetId (AccountId × Pocket))
      (h : s.assets.Authorises (.extrinsic s.sudoKey origin call) e) :
      Authorises s (.extrinsic origin (.genericAsset call)) e
  /-- Who stakes, pays the pool. -/
  | stake {i : Step AccountId} (who : AccountId) (assetId : AssetId) (amount : Balance)
      (hi : i.stake = some (who, assetId, amount)) :
      Authorises s i (payment s.saving.collectionAssetId who s.saving.collectionAccountId amount)
  /-- Who redeems, is paid all that the dtokens are worth ... -/
  | redeem {i : Step AccountId} (who : AccountId) (assetId : AssetId) (amount : Balance)
      (hi : i.redeem = some (who, assetId, amount)) :
      Authorises s i (payment s.saving.collectionAssetId s.saving.collectionAccountId who
        (s.redeemable who))
  /-- ... and pays back what was not asked for. -/
  | restake {i : Step AccountId} (who : AccountId) (assetId : AssetId) (amount : Balance)
      (hi : i.redeem = some (who, assetId, amount)) :
      Authorises s i (payment s.saving.collectionAssetId who s.saving.collectionAccountId
        (s.redeemable who - amount))
  /-- Who applies for a loan, gives the collateral away ... -/
  | collateral (who : AccountId) (collateralAmount loanAmount : Balance) :
      Authorises s
        (.extrinsic (.signed who) (.depositLoan (.applyLoan collateralAmount loanAmount)))
        (payment s.saving.collateralAssetId who s.saving.pawnShop
          (s.terms collateralAmount loanAmount).collateralAmount)
  /-- ... and is paid the loan. -/
  | loan (who : AccountId) (collateralAmount loanAmount : Balance) :
      Authorises s
        (.extrinsic (.signed who) (.depositLoan (.applyLoan collateralAmount loanAmount)))
        (payment s.saving.collectionAssetId s.saving.collectionAccountId who loanAmount)
  /-- Who repays a loan, pays what is owed ... -/
  | repay {i : Step AccountId} (who : AccountId) (loanId : LoanId) (h : s.Repays i who loanId) :
      Authorises s i (payment s.saving.loanAssetId who s.saving.collectionAccountId
          (s.saving.loans.get loanId).loanBalanceTotal)
  /-- ... and gets the collateral back ... -/
  | giveBack {i : Step AccountId} (who : AccountId) (loanId : LoanId) (h : s.Repays i who loanId) :
      Authorises s i (payment s.saving.collateralAssetId s.saving.pawnShop who
          (s.saving.loans.get loanId).collateralBalanceOriginal)
  /-- ... or the payment. -/
  | payBack {i : Step AccountId} (who : AccountId) (loanId : LoanId) (h : s.Repays i who loanId) :
      Authorises s i (payment s.saving.loanAssetId s.saving.collectionAccountId who
          (s.saving.loans.get loanId).loanBalanceTotal)
  /-- The liquidation account pays for a loan that was in liquidation. -/
  | auction {i : Step AccountId} (loanId : LoanId) (auctionBalance : Balance)
      (h : s.Auctions i loanId auctionBalance) :
      Authorises s i (payment s.saving.loanAssetId s.saving.liquidationAccount
          s.saving.collectionAccountId (s.saving.loans.get loanId).loanBalanceTotal)
  /-- The pool pays the penalty on what is left over ... -/
  | penalty {i : Step AccountId} (loanId : LoanId) (auctionBalance : Balance)
      (h : s.Auctions i loanId auctionBalance) :
      Authorises s i (payment s.saving.loanAssetId s.saving.collectionAccountId s.saving.profitPool
          (s.penalty (auctionBalance - (s.saving.loans.get loanId).loanBalanceTotal)))
  /-- ... and the rest of it. -/
  | leftover {i : Step AccountId} (loanId : LoanId) (auctionBalance : Balance)
      (h : s.Auctions i loanId auctionBalance) :
      Authorises s i (payment s.saving.loanAssetId s.saving.collectionAccountId
          (s.saving.loans.get loanId).who
          (auctionBalance - (s.saving.loans.get loanId).loanBalanceTotal -
            s.penalty (auctionBalance - (s.saving.loans.get loanId).loanBalanceTotal)))
  /-- Where the penalty cannot be paid, the pawn shop pays the balance of the loan. -/
  | shopPays {i : Step AccountId} (loanId : LoanId) (auctionBalance : Balance)
      (h : s.Auctions i loanId auctionBalance) :
      Authorises s i (payment s.saving.loanAssetId s.saving.pawnShop s.saving.liquidationAccount
          (s.saving.loans.get loanId).loanBalanceTotal)
  /-- Where the rest cannot be paid, the profits hand the penalty on ... -/
  | penaltyBack {i : Step AccountId} (loanId : LoanId) (auctionBalance : Balance)
      (h : s.Auctions i loanId auctionBalance) :
      Authorises s i (payment s.saving.loanAssetId s.saving.profitPool s.saving.liquidationAccount
          (s.penalty (auctionBalance - (s.saving.loans.get loanId).loanBalanceTotal)))
  /-- ... and the pawn shop gives the collateral away. -/
  | collateralAway {i : Step AccountId} (loanId : LoanId) (auctionBalance : Balance)
      (h : s.Auctions i loanId auctionBalance) :
      Authorises s i (payment s.saving.collateralAssetId s.saving.pawnShop
          s.saving.liquidationAccount (s.saving.loans.get loanId).collateralBalanceOriginal)
  /-- Who adds collateral, pays it in the collection asset. -/
  | added (who : AccountId) (loanId : LoanId) (amount : Balance) :
      Authorises s (.extrinsic (.signed who) (.depositLoan (.addCollateral loanId amount)))
        (payment s.saving.collectionAssetId who s.saving.pawnShop amount)

/-! ### One step -/

/-- **What a step has paid so far**: its entries are authorised, and the books are in order. -/
structure RuntimeState.Paid (s : RuntimeState AccountId) (i : Step AccountId)
    (assets : GenericAsset.Store AccountId) : Prop where
  balanced : assets.Balanced
  posts : ∃ es, (∀ e ∈ es, s.Authorises i e) ∧ s.assets.book.Posts es assets.book

section Paid

variable {s s' : RuntimeState AccountId} {i : Step AccountId} {ok : Bool}
  {assets assets' : GenericAsset.Store AccountId} {assetId : AssetId}
  {who fromAccount toAccount : AccountId} {amount : Balance}

theorem RuntimeState.Paid.start (h : s.assets.Balanced) : s.Paid i s.assets :=
  ⟨h, [], fun _ he => absurd he List.not_mem_nil, .nil _⟩

/-- A step may go on with a payment it is authorised to make. -/
theorem RuntimeState.Paid.move (h : s.Paid i assets)
    (hle : amount ≤ assets.free assetId fromAccount)
    (hauth : s.Authorises i (payment assetId fromAccount toAccount amount)) :
    s.Paid i (assets.moved assetId fromAccount toAccount amount) := by
  have hfits := h.balanced.receiversFit.transfer assetId fromAccount toAccount amount hle
  obtain ⟨es, hauths, hposts⟩ := h.posts
  refine ⟨h.balanced.moved hle hfits, es ++ [_], ?_, hposts.append (.one (post_moved hle hfits))⟩
  exact List.forall_mem_append.mpr ⟨hauths, List.forall_mem_singleton.mpr hauth⟩

omit [Inhabited AccountId] in
/-- Moving nothing leaves the book as it is. -/
theorem book_moved_zero (assets : GenericAsset.Store AccountId) (assetId : AssetId)
    (fromAccount toAccount : AccountId) :
    (assets.moved assetId fromAccount toAccount 0).book = assets.book := by
  ext a w
  · obtain ⟨who, _ | _⟩ := w
    · show ((assets.moved ..).free a who).toNat = _
      rw [Store.free_moved_zero]
      rfl
    · obtain ⟨m, hm⟩ := assets.moved_eq assetId fromAccount toAccount 0
      rw [hm]
      rfl
  · show ((assets.moved ..).totalIssuance.get a).toNat = _
    rw [Store.moved_totalIssuance]
    rfl

/-- A step may move nothing without being authorised. -/
theorem RuntimeState.Paid.move_zero (h : s.Paid i assets) (assetId : AssetId)
    (fromAccount toAccount : AccountId) :
    s.Paid i (assets.moved assetId fromAccount toAccount 0) := by
  have hfits : ∀ x : Balance, x.toNat + (0 : Balance).toNat < 2 ^ 128 := fun x => by
    simpa using x.isLt
  have hle : ∀ x : Balance, 0 ≤ x := fun x => by simp [BitVec.le_def]
  obtain ⟨es, hauths, hposts⟩ := h.posts
  refine ⟨h.balanced.moved (hle _) fun _ => hfits _, es, hauths, ?_⟩
  rw [book_moved_zero]
  exact hposts

/-- The steps of a hook pay nothing. -/
theorem paid_hook (h : s.assets.Balanced) (hst : Relation.ReflTransGen HookStep s s') :
    s.Paid i s'.assets := by
  induction hst with
  | refl => exact .start h
  | tail _ hstep ih =>
    cases hstep with
    | warned => exact ih
    | liquidating => exact ih
    | accrued => exact ih
    | charged assetId fromAccount toAccount => exact ih.move_zero assetId fromAccount toAccount

/-- A redeem pays out what the dtokens are worth, and is paid back the rest. -/
theorem paid_redeemed (h : s.assets.Balanced) (hi : i.redeem = some (who, assetId, amount))
    (hasset : s.saving.collectionAssetId = assetId) (hred : s.Redeemed who assetId amount s') :
    s.Paid i s'.assets := by
  have hout : s.Paid i (s.paidOut who).assets := by
    unfold paidOut
    split
    · rename_i hcan
      exact (Paid.start h).move hcan.covered (.redeem who assetId amount hi)
    · exact .start h
  cases hred with
  | kept => exact hout
  | restaked hcan =>
    show s.Paid i (Store.moved ..)
    rw [paidOut_collectionAccountId, ← hasset]
    rw [← hasset] at hcan
    exact hout.move hcan.covered (.restake who assetId amount hi)

/-- **A liquidation pays** what it is authorised to pay, also where it fails. -/
theorem paid_notShared {loanId : LoanId} {auctionBalance : Balance}
    (hauction : s.Auctions i loanId auctionBalance)
    (h : s.Paid i (s.sold (s.saving.loans.get loanId) s.saving.liquidationAccount).assets)
    (ha : (s.sold (s.saving.loans.get loanId) s.saving.liquidationAccount).NotShared
      (s.saving.loans.get loanId) s.saving.liquidationAccount
      (auctionBalance - (s.saving.loans.get loanId).loanBalanceTotal) assets) :
    s.Paid i assets := by
  cases ha with
  | penaltyKept => exact h
  | penaltyShort _ hle => exact h.move hle (.shopPays loanId auctionBalance hauction)
  | restKept hp => exact h.move hp (.penalty loanId auctionBalance hauction)
  | restShort hp _ hback =>
    exact (h.move hp (.penalty loanId auctionBalance hauction)).move hback
      (.penaltyBack loanId auctionBalance hauction)
  | collateralGiven hp _ hback hgive =>
    exact ((h.move hp (.penalty loanId auctionBalance hauction)).move hback
      (.penaltyBack loanId auctionBalance hauction)).move hgive
      (.collateralAway loanId auctionBalance hauction)

/-- **A step pays** what it is authorised to pay, whether or not it succeeds. -/
theorem Effect.paid (heff : Effect s i ok s') (h : s.assets.Balanced) : s.Paid i s'.assets := by
  cases heff with
  | unchanged => exact .start h
  | timed => exact .start h
  | oracleCall => exact .start h
  | aggregated => exact .start h
  | set => exact .start h
  | ledgerCall origin call assets hcall =>
    obtain ⟨es, hauths, hposts⟩ := (wp_of_ok hcall).mp (dispatch_posts h s.sudoKey origin call)
    exact ⟨(wp_of_ok hcall).mp (dispatch_spec h s.sudoKey origin call), es,
      fun e he => .ledger origin call e (hauths e he), hposts⟩
  | ledgerFailed origin call assets e hcall =>
    obtain rfl : assets = s.assets := (wp_of_err hcall).mp (dispatch_posts h s.sudoKey origin call)
    exact .start h
  | staked who assetId amount hi _ hasset hcan =>
    rw [← hasset] at hcan
    show s.Paid i (Store.moved ..)
    rw [← hasset]
    exact (Paid.start h).move hcan.covered (.stake who assetId amount hi)
  | redeemed who assetId amount hi _ hcan hred => exact paid_redeemed h hi hcan.asset hred
  | granted who collateralAmount loanAmount _ hcan =>
    exact ((Paid.start h).move hcan.covered (.collateral who collateralAmount loanAmount)).move
      hcan.paid (.loan who collateralAmount loanAmount)
  | taken who collateralAmount loanAmount _ hcov =>
    exact (Paid.start h).move hcov (.collateral who collateralAmount loanAmount)
  | repaid who loanId _ htry hret =>
    have hrepays : s.Repays _ who loanId := ⟨rfl, htry.owner⟩
    exact ((Paid.start h).move htry.funded (.repay who loanId hrepays)).move hret
      (.giveBack who loanId hrepays)
  | repayReverted who loanId assets _ htry _ hback =>
    have hrepays : s.Repays _ who loanId := ⟨rfl, htry.owner⟩
    have hpaid := (Paid.start h).move htry.funded (.repay who loanId hrepays)
    cases hback with
    | back hle => exact hpaid.move hle (.payBack who loanId hrepays)
    | kept => exact hpaid
  | liquidated who loanId auctionBalance _ hwho _ htry hset =>
    subst hwho
    have hauction : s.Auctions _ loanId auctionBalance := ⟨rfl, htry.liquidating⟩
    have hsold := (Paid.start h).move (BitVec.le_trans htry.enough htry.funded)
      (.auction loanId auctionBalance hauction)
    show s.Paid _ (s.settled ..)
    unfold settled
    split
    · rename_i hpos
      exact (hsold.move (hset hpos).penalty (.penalty loanId auctionBalance hauction)).move
        (hset hpos).rest (.leftover loanId auctionBalance hauction)
    · exact hsold
  | notLiquidated who loanId auctionBalance assets _ hwho _ htry _ ha =>
    subst hwho
    have hauction : s.Auctions _ loanId auctionBalance := ⟨rfl, htry.liquidating⟩
    exact paid_notShared hauction ((Paid.start h).move (BitVec.le_trans htry.enough htry.funded)
      (.auction loanId auctionBalance hauction)) ha
  | collateralAdded who loanId amount _ _ _ hle =>
    exact (Paid.start h).move hle (.added who loanId amount)
  | drawn => exact .start h
  | hook _ hst => exact paid_hook h hst

/-- **The chain keeps the book of its ledger**, once its books are in order. -/
theorem chain_keeps_book : Keeps next (fun s : RuntimeState AccountId => s.assets.book)
    RuntimeState.Authorises fun s => s.assets.Balanced where
  keeps i s s' h hnext := by
    obtain ⟨ok, heff⟩ := next_effect hnext
    exact (heff.paid h).balanced
  posts i s s' h hnext := by
    obtain ⟨ok, heff⟩ := next_effect hnext
    exact (heff.paid h).posts

end Paid

/-! ### Runs -/

section Runs

variable {config : GenesisConfig AccountId} {s₀ s s' : RuntimeState AccountId}
  {is : List (Step AccountId)} {i : Step AccountId} {w : AccountId} {assetId : AssetId}

/-- Books in order stay in order. -/
theorem balanced_of_run (hcounted : config.genericAsset.Counted) (hgenesis : config.build = some s₀)
    (hreach : Reachable next s₀ s) : s.assets.Balanced :=
  hreach.invariant (I := fun s => s.assets.Balanced)
    (hcounted.balanced (GenesisConfig.assets_of_build hgenesis))
    fun s i s' hs _ hnext => chain_keeps_book.keeps i s s' hs hnext

/-- **Every unit of every asset is accounted for** in every run of the chain: the run posts a list
of entries, those of each step authorised in the state it was taken in, and at its end what all
accounts have is what was issued. -/
theorem accounted_for (hcounted : config.genericAsset.Counted) (hgenesis : config.build = some s₀)
    (hrun : run next is s₀ = some s) :
    (∃ ess, List.Forall₂ (fun x es => ∀ e ∈ es, x.1.Authorises x.2.1 e) (trace next is s₀) ess ∧
      s₀.assets.book.Posts ess.flatten s.assets.book) ∧
    ∀ assetId, ∑ᶠ who, ((s.assets.free assetId who).toNat + (s.assets.reserved assetId who).toNat) =
      (s.assets.totalIssuance.get assetId).toNat := by
  have hstart := hcounted.balanced (GenesisConfig.assets_of_build hgenesis)
  obtain ⟨ess, hauths, hposts⟩ := chain_keeps_book.posts_of_run hstart hrun
  refine ⟨⟨ess, hauths, hposts⟩, fun assetId => ?_⟩
  rw [← held_eq_finsum, ← degree_book]
  exact hposts.sound hstart.sound assetId

theorem accounted_for_example :
    ∃ s, run next [signedCall 5 (.staking 0 100), signedCall 6 (.applyLoan 4 150),
        .onInitialize 1, signedCall 6 (.repayLoan 0)] exampleState = some s ∧
      s.saving.userDtoken.get 5 = 100 ∧
      (∃ ess, exampleState.assets.book.Posts ess s.assets.book) ∧
      ∑ᶠ who, ((s.assets.free 0 who).toNat + (s.assets.reserved 0 who).toNat) =
        (s.assets.totalIssuance.get 0).toNat := by
  obtain ⟨s, hrun, hstaked⟩ := exists_of_any (p := fun s => s.saving.userDtoken.get 5 = 100)
    (o := run next [signedCall 5 (.staking 0 100), signedCall 6 (.applyLoan 4 150),
      .onInitialize 1, signedCall 6 (.repayLoan 0)] exampleState) (by decide +kernel)
  obtain ⟨⟨ess, -, hposts⟩, hsums⟩ := accounted_for exampleConfig_counted exampleConfig_build hrun
  exact ⟨s, hrun, hstaked, ⟨ess.flatten, hposts⟩, hsums 0⟩

/-- Who acts in a step: its signer, or for whom the administrator saves. -/
def Step.actor : Step AccountId → Option AccountId
  | .extrinsic (.signed who) _ => some who
  | .extrinsic .root (.depositLoan (.sudoStaking _ _ delegatee)) => some delegatee
  | .extrinsic .root (.depositLoan (.sudoRedeem _ _ delegatee)) => some delegatee
  | _ => none

omit [DecidableEq AccountId] [Inhabited AccountId] in
/-- Who stakes, acts. -/
theorem actor_of_stake {amount : Balance} (h : i.stake = some (w, assetId, amount)) :
    i.actor = some w := by
  unfold Step.stake at h
  split at h
  · cases h
    rfl
  · cases h
    rfl
  · cases h

omit [DecidableEq AccountId] [Inhabited AccountId] in
/-- Who redeems, acts. -/
theorem actor_of_redeem {amount : Balance} (h : i.redeem = some (w, assetId, amount)) :
    i.actor = some w := by
  unfold Step.redeem at h
  split at h
  · cases h
    rfl
  · cases h
    rfl
  · cases h

/-- **A bystander of a step**: an account that does not act in it, is no account of the pool, and
whose asset is not burnt by who may. -/
structure RuntimeState.StandsBy (s : RuntimeState AccountId) (i : Step AccountId) (w : AccountId)
    (assetId : AssetId) : Prop where
  actor : i.actor ≠ some w
  collection : s.saving.collectionAccountId ≠ w
  pawnShop : s.saving.pawnShop ≠ w
  profitPool : s.saving.profitPool ≠ w
  burn : ∀ who amount, i = .extrinsic (.signed who) (.genericAsset (.burn assetId w amount)) →
    s.assets.checkPermission assetId who .burn = false

omit [DecidableEq AccountId] [Inhabited AccountId] in
/-- A payment is taken from its payer. -/
theorem payer_of_payment {fromAccount toAccount : AccountId} {amount : Balance} {pocket : Pocket}
    (hne : fromAccount ≠ w) :
    (payment assetId fromAccount toAccount amount).payer ≠ some (w, pocket) :=
  fun h => hne (Prod.ext_iff.mp (Option.some.inj h)).1

/-- Nobody is authorised to take anything from a bystander. -/
theorem RuntimeState.StandsBy.not_payer (h : s.StandsBy i w assetId) {pocket : Pocket}
    {e : Entry AssetId (AccountId × Pocket)} (hauth : s.Authorises i e)
    (hasset : e.asset = assetId) : e.payer ≠ some (w, pocket) := by
  have hactor : ∀ who, i.actor = some who → who ≠ w := fun who hi hw => h.actor (hw ▸ hi)
  have hliq : ∀ loanId auctionBalance, s.Auctions i loanId auctionBalance →
      s.saving.liquidationAccount ≠ w := fun _ _ ha => hactor _ (ha.step ▸ rfl)
  cases hauth with
  | ledger origin call e hledger =>
    cases hledger with
    | transfer _ who => exact payer_of_payment (hactor who rfl)
    | mint => exact Option.some_ne_none _ |>.symm
    | burn _ who toAccount _ amount hallowed =>
      rintro hpayer
      cases hasset
      cases hpayer
      exact Bool.false_ne_true ((h.burn who amount rfl).symm.trans hallowed)
    | create => exact Option.some_ne_none _ |>.symm
    | createReserved => exact Option.some_ne_none _ |>.symm
  | stake who _ _ hi => exact payer_of_payment (hactor who (actor_of_stake hi))
  | redeem => exact payer_of_payment h.collection
  | restake who _ _ hi => exact payer_of_payment (hactor who (actor_of_redeem hi))
  | collateral who => exact payer_of_payment (hactor who rfl)
  | loan => exact payer_of_payment h.collection
  | repay who _ hrepays => exact payer_of_payment (hactor who (hrepays.step ▸ rfl))
  | giveBack => exact payer_of_payment h.pawnShop
  | payBack => exact payer_of_payment h.collection
  | auction loanId auctionBalance ha => exact payer_of_payment (hliq _ _ ha)
  | penalty => exact payer_of_payment h.collection
  | leftover => exact payer_of_payment h.collection
  | shopPays => exact payer_of_payment h.pawnShop
  | penaltyBack => exact payer_of_payment h.profitPool
  | collateralAway => exact payer_of_payment h.pawnShop
  | added who => exact payer_of_payment (hactor who rfl)

/-- **A bystander loses nothing**: over every run of a chain whose genesis is counted, an account
that does not act, is at no time an account of the pool, and whose asset nobody burns who may, has
in the end what it had of the asset or more, free and reserved. -/
theorem bystander_keeps (hcounted : config.genericAsset.Counted)
    (hgenesis : config.build = some s₀) (hreach : Reachable next s₀ s)
    (hrun : run next is s = some s')
    (hby : ∀ x ∈ trace next is s, x.1.StandsBy x.2.1 w assetId) :
    s.assets.free assetId w ≤ s'.assets.free assetId w ∧
      s.assets.reserved assetId w ≤ s'.assets.reserved assetId w := by
  have hbalanced := balanced_of_run hcounted hgenesis hreach
  have hkeeps : ∀ pocket, s.assets.inPocket assetId (w, pocket) ≤
      s'.assets.inPocket assetId (w, pocket) := fun pocket =>
    chain_keeps_book.balance_le hbalanced hrun fun x hx e hauth hasset =>
      (hby x hx).not_payer hauth hasset
  exact ⟨BitVec.le_def.mpr (hkeeps .free), BitVec.le_def.mpr (hkeeps .reserved)⟩

theorem bystander_keeps_example : ∃ s, next (signedCall 5 (.staking 0 100)) exampleState = some s ∧
    s.saving.userDtoken.get 5 = 100 ∧ exampleState.assets.free 0 6 ≤ s.assets.free 0 6 := by
  obtain ⟨s, hnext, hstaked⟩ := exists_of_any (p := fun s => s.saving.userDtoken.get 5 = 100)
    (o := next (signedCall 5 (.staking 0 100)) exampleState) (by decide +kernel)
  have hby : exampleState.StandsBy (signedCall 5 (.staking 0 100)) 6 0 :=
    ⟨by decide, by decide +kernel, by decide +kernel, by decide +kernel, fun _ _ h => by cases h⟩
  have hrun : run next [signedCall 5 (.staking 0 100)] exampleState = some s := by
    rw [run, hnext]
    rfl
  refine ⟨s, hnext, hstaked, (bystander_keeps (w := 6) exampleConfig_counted exampleConfig_build
    .refl hrun ?_).1⟩
  rw [trace_cons_of_some hnext]
  exact List.forall_mem_singleton.mpr hby

end Runs

end MoneyPool
