import MoneyPool.GenericAsset.Entries
import MoneyPool.Bridge.EventLog

/-!
# Everything on the bridge is authorised

The bridge has administrators, and each of its calls but a withdrawal asks for an authority: without
it the call changes nothing (`MoneyPool.Bridge.next_of_not_permitted`). With it, all that happens to
the ledger is posted to its book: a deposit is issued, by somebody who may report it or who may mark
the account it waits for; a withdrawal is paid to the vault by its signer, and paid back by somebody
who may refund it (`MoneyPool.Bridge.State.Authorises`).

So every unit is accounted for (`MoneyPool.Bridge.all_accounted_for`), and the administrators
together can take nothing from an account that is not the vault (`MoneyPool.Bridge.outsider_keeps`).
-/

namespace MoneyPool

namespace Bridge

open Pallet Pallet.Exec

open GenericAsset (Pocket)

variable {AccountId : Type} [DecidableEq AccountId] [Inhabited AccountId] {β : Build}

/-! ### Authorities -/

/-- The authority that a call asks its signer for, if any. -/
def Call.auth : Call AccountId → Option Auth
  | .deposit _ _ _ => some .deposit
  | .refund _ _ => some .refund
  | .withdrawFinish _ _ => some .withdraw
  | .markBlack _ => some .mark
  | .markWhite _ => some .mark
  | _ => none

/-- **A call of the bridge is permitted**, if its signer has the authority it asks for. -/
def Store.Permits (s : Store AccountId) (author : AccountId) (call : Call AccountId) : Prop :=
  ∀ auth ∈ call.auth, s.hasAuth author auth = true

section Authority

variable {s s' : State AccountId} {author : AccountId} {call : Call AccountId}

omit [Inhabited AccountId] in
/-- A call that is not permitted is refused before it writes anything. -/
theorem dispatch_of_not_permitted (h : ¬s.bridge.Permits author call) :
    wp (dispatch (.signed author) call : Prog β AccountId Unit) (fun _ _ => False)
      (fun _ t => t = s) False s := by
  have hno : ∀ auth, call.auth = some auth → ¬s.bridge.hasAuth author auth = true := by
    intro auth hauth hyes
    refine h fun auth' hauth' => ?_
    obtain rfl := Option.some.inj (hauth.symm.trans hauth')
    exact hyes
  cases call with
  | pause => exact (h fun _ hauth => by cases hauth).elim
  | resume => exact (h fun _ hauth => by cases hauth).elim
  | withdraw => exact (h fun _ hauth => by cases hauth).elim
  | deposit account amount txHash =>
    simp only [dispatch, deposit, wp_bind, wp_gets, wp_ensure, wp_ensureSigned]
    refine ⟨fun _ => ⟨?_, fun _ => trivial⟩, fun _ => trivial⟩
    rintro _ ⟨⟩
    exact ⟨fun hyes => absurd hyes (hno _ rfl), fun _ => trivial⟩
  | refund who amount =>
    simp only [dispatch, refund, wp_bind, wp_gets, wp_ensure, wp_ensureSigned]
    refine ⟨?_, fun _ => trivial⟩
    rintro _ ⟨⟩
    exact ⟨fun hyes => absurd hyes (hno _ rfl), fun _ => trivial⟩
  | withdrawFinish who amount =>
    simp only [dispatch, withdrawFinish, wp_bind, wp_gets, wp_ensure, wp_ensureSigned]
    refine ⟨?_, fun _ => trivial⟩
    rintro _ ⟨⟩
    exact ⟨fun hyes => absurd hyes (hno _ rfl), fun _ => trivial⟩
  | markBlack account =>
    simp only [dispatch, markBlack, wp_bind, wp_gets, wp_ensure, wp_ensureSigned]
    refine ⟨?_, fun _ => trivial⟩
    rintro _ ⟨⟩
    exact ⟨fun hyes => absurd hyes (hno _ rfl), fun _ => trivial⟩
  | markWhite account =>
    simp only [dispatch, markWhite, wp_bind, wp_gets, wp_ensure, wp_ensureSigned]
    refine ⟨?_, fun _ => trivial⟩
    rintro _ ⟨⟩
    exact ⟨fun hyes => absurd hyes (hno _ rfl), fun _ => trivial⟩

/-- **Without the authority** that a call asks for, it changes nothing. -/
theorem next_of_not_permitted (h : ¬s.bridge.Permits author call)
    (hnext : next β (.bridge (.signed author) call) s = some s') : s' = s := by
  refine next_of_wp (R := fun t => t = s) hnext ?_ rfl
  exact wp_mono (dispatch_of_not_permitted h) (fun _ _ hno => hno.elim) (fun _ _ ht => ht)
    False.elim

end Authority

/-! ### Who may post what -/

/-- **What a step may post**, and by whose authority. -/
inductive State.Authorises (s : State AccountId) :
    Step AccountId → Entry AssetId (AccountId × Pocket) → Prop
  /-- A call of the ledger posts what it may. -/
  | ledger (origin : Origin AccountId) (call : GenericAsset.Call AccountId)
      (e : Entry AssetId (AccountId × Pocket))
      (h : s.assets.Authorises (.extrinsic s.sudoKey origin call) e) :
      s.Authorises (.ledger origin call) e
  /-- Who may report deposits, issues a new one, unless it needs a mark. -/
  | reported (author account : AccountId) (amount : Balance) (txHash : TxHash)
      (permits : s.bridge.Permits author (.deposit account amount txHash))
      (fresh : s.bridge.isTxSeen txHash = false)
      (white : s.bridge.threshold ≤ amount → s.bridge.checkList account = some .white) :
      s.Authorises (.bridge (.signed author) (.deposit account amount txHash))
        (.issue s.bridge.assetId (account, .free) amount.toNat)
  /-- Who may mark accounts, issues what waits for one. -/
  | released (author account : AccountId) (d : Deposit AccountId)
      (permits : s.bridge.Permits author (.markWhite account)) (waits : d ∈ s.pendings account) :
      s.Authorises (.bridge (.signed author) (.markWhite account))
        (.issue s.bridge.assetId (account, .free) d.amount.toNat)
  /-- Who withdraws, pays to the vault. -/
  | withdrawn (who : AccountId) (amount : Balance) :
      s.Authorises (.bridge (.signed who) (.withdraw amount))
        (.pay s.bridge.assetId (who, .free) (s.bridge.pendingWithdrawVault, .free) amount.toNat)
  /-- Who may refund, lets the vault pay back what is open. -/
  | refunded (author who : AccountId) (amount : Balance)
      (permits : s.bridge.Permits author (.refund who amount))
      (asked : amount ∈ s.bridge.pendingWithdraws.get who) :
      s.Authorises (.bridge (.signed author) (.refund who amount))
        (.pay s.bridge.assetId (s.bridge.pendingWithdrawVault, .free) (who, .free) amount.toNat)

/-- **What a step has paid so far**: its entries are authorised, and the books are in order. -/
structure State.Paid (s : State AccountId) (i : Step AccountId)
    (assets : GenericAsset.Store AccountId) : Prop where
  balanced : assets.Balanced
  posts : ∃ es, (∀ e ∈ es, s.Authorises i e) ∧ s.assets.book.Posts es assets.book

section Paid

variable {s s' t : State AccountId} {i : Step AccountId} {account fromAccount toAccount : AccountId}
  {assets : GenericAsset.Store AccountId} {assetId : AssetId} {amount : Balance}
  {ps : List (Deposit AccountId)}

omit [Inhabited AccountId] in
/-- A mint keeps the books in order. -/
theorem balanced_minted {key : AccountId} (h : assets.Balanced)
    (hcan : assets.CanMint assetId key account amount) :
    (assets.minted assetId account amount).Balanced := by
  rcases GenericAsset.mintFree_cases (β := .release) assets assetId key account amount with
    ⟨-, hx⟩ | ⟨hno, -⟩
  · exact (wp_of_ok hx).mp
      (GenericAsset.mintFree_spec (P := True) h assetId key account amount)
  · exact absurd hcan hno

theorem State.Paid.start (h : s.assets.Balanced) : s.Paid i s.assets :=
  ⟨h, [], fun _ he => absurd he List.not_mem_nil, .nil _⟩

/-- A step may go on with an issue it is authorised to post. -/
theorem State.Paid.issue {key : AccountId} (h : s.Paid i assets)
    (hcan : assets.CanMint assetId key account amount)
    (hauth : s.Authorises i (.issue assetId (account, .free) amount.toNat)) :
    s.Paid i (assets.minted assetId account amount) := by
  obtain ⟨es, hauths, hposts⟩ := h.posts
  have hpost : assets.book.Post (.issue assetId (account, .free) amount.toNat)
      (assets.minted assetId account amount).book :=
    GenericAsset.post_issued _ rfl (BitVec.toNat_add_of_lt hcan.balance)
      (BitVec.toNat_add_of_lt hcan.total)
  refine ⟨balanced_minted h.balanced hcan, es ++ [_], ?_, hposts.append (.one hpost)⟩
  exact List.forall_mem_append.mpr ⟨hauths, List.forall_mem_singleton.mpr hauth⟩

/-- A step may go on with a payment it is authorised to post. -/
theorem State.Paid.move (h : s.Paid i assets) (hle : amount ≤ assets.free assetId fromAccount)
    (hauth : s.Authorises i (.pay assetId (fromAccount, .free) (toAccount, .free) amount.toNat)) :
    s.Paid i (assets.moved assetId fromAccount toAccount amount) := by
  have hfits := h.balanced.receiversFit.transfer assetId fromAccount toAccount amount hle
  obtain ⟨es, hauths, hposts⟩ := h.posts
  refine ⟨h.balanced.moved hle hfits, es ++ [_], ?_,
    hposts.append (.one (GenericAsset.post_moved hle hfits))⟩
  exact List.forall_mem_append.mpr ⟨hauths, List.forall_mem_singleton.mpr hauth⟩

/-- **Releasing deposits** issues them, one after the other. -/
theorem State.Clears.paid (hclears : t.Clears ps s') (h : s.Paid i t.assets)
    (hauth : ∀ d ∈ ps,
      s.Authorises i (.issue t.bridge.assetId (d.accountId, .free) d.amount.toNat)) :
    s.Paid i s'.assets := by
  induction hclears with
  | nil => exact h
  | cons _ hcan _ ih =>
    obtain ⟨hfirst, hmore⟩ := List.forall_mem_cons.mp hauth
    exact ih (h.issue hcan hfirst) hmore

/-- **Every effect is posted.** -/
theorem Effect.paid (heff : Effect β s i s') (honce : ∀ account, s.CreditedOnce account [])
    (h : s.assets.Balanced) (hpermits : ∀ author call, i = .bridge (.signed author) call →
      s.bridge.Permits author call) : s.Paid i s'.assets := by
  -- what waits for an account belongs to it
  have hreleased : ∀ author account, i = .bridge (.signed author) (.markWhite account) →
      ∀ d ∈ s.pendings account,
        s.Authorises i (.issue s.bridge.assetId (d.accountId, .free) d.amount.toNat) := by
    rintro author account rfl d hd
    obtain ⟨_, hw⟩ := (honce account).stored account d hd
    rw [hw.account]
    exact .released author account d (hpermits author _ rfl) hd
  cases heff with
  | unchanged => exact .start h
  | switched => exact .start h
  | ledgerCall origin call assets hcall =>
    have hposts := GenericAsset.dispatch_posts (β := β) h s.sudoKey origin call
    have hbooks := GenericAsset.dispatch_spec (β := β) h s.sudoKey origin call
    rcases cases_of_wp (wp_and hcall (wp_and hposts hbooks)) with
      ⟨_, t, -, rfl, ⟨es, hauths, hes⟩, hbalanced⟩ | ⟨_, t, -, rfl, rfl, -⟩ | ⟨-, hno⟩
    · exact ⟨hbalanced, es, fun e he => .ledger origin call e (hauths e he), hes⟩
    · exact .start h
    · exact hno.1.elim
  | credited author account amount txHash hfresh hwhite hcan =>
    exact (State.Paid.start h).issue hcan
      (.reported author account amount txHash (hpermits author _ rfl) hfresh hwhite)
  | lost => exact .start h
  | held => exact .start h
  | blackened author account txHashes =>
    obtain ⟨m, hm⟩ := foldl_unseen txHashes (s.taken account)
    rw [hm]
    exact .start h
  | whitened author account hclears =>
    exact hclears.paid (.start h) (hreleased author account rfl)
  | stuck author account hsplit hclears =>
    refine hclears.paid (.start h) fun d hd => hreleased author account rfl d ?_
    rw [State.pendings, hsplit]
    exact List.mem_append_left _ hd
  | withdrawn who amount hle => exact (State.Paid.start h).move hle (.withdrawn who amount)
  | refunded author who amount hasked hle =>
    exact (State.Paid.start h).move hle
      (.refunded author who amount (hpermits author _ rfl) hasked)
  | finished => exact .start h

/-- **The bridge keeps the book of its ledger.** -/
theorem keeps_book : Keeps (next β) (fun s : State AccountId => s.assets.book) State.Authorises
    fun s => (∀ account, s.CreditedOnce account []) ∧ s.assets.Balanced := by
  have hpaid : ∀ i (s s' : State AccountId), (∀ account, s.CreditedOnce account []) →
      s.assets.Balanced → next β i s = some s' → s.Paid i s'.assets := by
    intro i s s' honce h hnext
    by_cases hpermits : ∀ author call, i = .bridge (.signed author) call →
        s.bridge.Permits author call
    · exact (next_effect hnext).paid honce h hpermits
    · push Not at hpermits
      obtain ⟨author, call, rfl, hno⟩ := hpermits
      obtain rfl := next_of_not_permitted hno hnext
      exact .start h
  refine ⟨fun i s s' h hnext => ?_, fun i s s' h hnext => (hpaid i s s' h.1 h.2 hnext).posts⟩
  exact ⟨(next_effect hnext).creditedOnce h.1, (hpaid i s s' h.1 h.2 hnext).balanced⟩

end Paid

/-! ### Runs -/

section Runs

variable {config : GenesisConfig AccountId} {s₀ s s' : State AccountId} {is : List (Step AccountId)}
  {w : AccountId} {assetId : AssetId}

/-- A genesis that is counted starts with its books in order. -/
theorem GenesisConfig.build_balanced (hcounted : config.genericAsset.Counted)
    (h : config.build β = some s₀) : s₀.assets.Balanced := by
  unfold GenesisConfig.build at h
  split at h
  · rename_i assets hassets
    cases h
    exact hcounted.balanced hassets
  · cases h

/-- **Every unit of every asset is accounted for** in every run of the bridge: the run posts a list
of entries, those of each step authorised in the state it was taken in, and at its end what all
accounts have is what was issued. -/
theorem all_accounted_for (hcounted : config.genericAsset.Counted)
    (hgenesis : config.build β = some s₀) (hrun : run (next β) is s₀ = some s) :
    (∃ ess, List.Forall₂ (fun x es => ∀ e ∈ es, x.1.Authorises x.2.1 e) (trace (next β) is s₀) ess ∧
      s₀.assets.book.Posts ess.flatten s.assets.book) ∧
    ∀ assetId, ∑ᶠ who, ((s.assets.free assetId who).toNat + (s.assets.reserved assetId who).toNat) =
      (s.assets.totalIssuance.get assetId).toNat := by
  have hstart := GenesisConfig.build_balanced hcounted hgenesis
  obtain ⟨ess, hauths, hposts⟩ := keeps_book.posts_of_run
    ⟨creditedOnce_of_reachable hgenesis .refl, hstart⟩ hrun
  refine ⟨⟨ess, hauths, hposts⟩, fun assetId => ?_⟩
  rw [← GenericAsset.held_eq_finsum, ← GenericAsset.degree_book]
  exact hposts.sound hstart.sound assetId

/-- The genesis of the example is counted. -/
theorem exampleConfig_counted : exampleConfig.genericAsset.Counted :=
  ⟨List.nodup_nil, fun _ h => absurd h List.not_mem_nil, by decide +kernel, by decide +kernel⟩

theorem all_accounted_for_example :
    ∃ s, run (next .release) [.bridge (.signed 2) (.deposit 5 30 1),
        .bridge (.signed 2) (.markWhite 5), .bridge (.signed 5) (.withdraw 4)] exampleState =
        some s ∧
      s.assets.free 1 5 = 26 ∧ s.assets.free 1 7 = 4 ∧
      (∃ es, exampleState.assets.book.Posts es s.assets.book) ∧
      ∑ᶠ who, ((s.assets.free 1 who).toNat + (s.assets.reserved 1 who).toNat) =
        (s.assets.totalIssuance.get 1).toNat := by
  obtain ⟨s, hrun, hfree, hvault⟩ := exists_of_any
    (p := fun s : State ℕ => s.assets.free 1 5 = 26 ∧ s.assets.free 1 7 = 4)
    (o := run (next .release) [.bridge (.signed 2) (.deposit 5 30 1),
        .bridge (.signed 2) (.markWhite 5), .bridge (.signed 5) (.withdraw 4)] exampleState)
    (by decide +kernel)
  obtain ⟨⟨ess, -, hposts⟩, hsums⟩ :=
    all_accounted_for exampleConfig_counted exampleConfig_build hrun
  exact ⟨s, hrun, hfree, hvault, ⟨ess.flatten, hposts⟩, hsums 1⟩

/-- Who has signed a step. -/
def Step.signer : Step AccountId → Option AccountId
  | .bridge (.signed who) _ => some who
  | .ledger (.signed who) _ => some who
  | _ => none

/-- **An outsider of a step**: an account that has not signed it, is not the vault, and whose asset
is not burnt by who may. -/
structure State.Outside (s : State AccountId) (i : Step AccountId) (w : AccountId)
    (assetId : AssetId) : Prop where
  signer : i.signer ≠ some w
  vault : s.bridge.pendingWithdrawVault ≠ w
  burn : ∀ who amount, i = .ledger (.signed who) (.burn assetId w amount) →
    s.assets.checkPermission assetId who .burn = false

/-- Nobody is authorised to take anything from an outsider. -/
theorem State.Outside.not_payer {i : Step AccountId} (h : s.Outside i w assetId) {pocket : Pocket}
    {e : Entry AssetId (AccountId × Pocket)} (hauth : s.Authorises i e)
    (hasset : e.asset = assetId) : e.payer ≠ some (w, pocket) := by
  have hsigner : ∀ who, i.signer = some who → who ≠ w := fun who hi hw => h.signer (hw ▸ hi)
  have hpay : ∀ {a : AssetId} {payer : AccountId} {payee : AccountId × Pocket} {n : ℕ}, payer ≠ w →
      (Entry.pay a (payer, Pocket.free) payee n).payer ≠ some (w, pocket) :=
    fun hne heq => hne (Prod.ext_iff.mp (Option.some.inj heq)).1
  cases hauth with
  | ledger origin call e hledger =>
    cases hledger with
    | transfer _ who => exact hpay (hsigner who rfl)
    | mint => exact Option.some_ne_none _ |>.symm
    | burn _ who toAccount _ amount hallowed =>
      rintro hpayer
      cases hasset
      cases hpayer
      exact Bool.false_ne_true ((h.burn who amount rfl).symm.trans hallowed)
    | create => exact Option.some_ne_none _ |>.symm
    | createReserved => exact Option.some_ne_none _ |>.symm
  | reported => exact Option.some_ne_none _ |>.symm
  | released => exact Option.some_ne_none _ |>.symm
  | withdrawn who => exact hpay (hsigner who rfl)
  | refunded => exact hpay h.vault

/-- **An outsider loses nothing**: over every run of a bridge whose genesis is counted, whatever its
administrators call, an account that signs nothing, is not the vault, and whose asset nobody burns
who may, has in the end what it had of the asset or more, free and reserved. -/
theorem outsider_keeps (hcounted : config.genericAsset.Counted)
    (hgenesis : config.build β = some s₀) (hreach : Reachable (next β) s₀ s)
    (hrun : run (next β) is s = some s')
    (hout : ∀ x ∈ trace (next β) is s, x.1.Outside x.2.1 w assetId) :
    s.assets.free assetId w ≤ s'.assets.free assetId w ∧
      s.assets.reserved assetId w ≤ s'.assets.reserved assetId w := by
  have hstart : (∀ account, s.CreditedOnce account []) ∧ s.assets.Balanced := by
    refine hreach.invariant (I := fun s => (∀ account, s.CreditedOnce account []) ∧
      s.assets.Balanced) ⟨creditedOnce_of_reachable hgenesis .refl,
        GenesisConfig.build_balanced hcounted hgenesis⟩ fun s i s' hs _ hnext => ?_
    exact keeps_book.keeps i s s' hs hnext
  have hkeeps : ∀ pocket, s.assets.inPocket assetId (w, pocket) ≤
      s'.assets.inPocket assetId (w, pocket) := fun pocket =>
    keeps_book.balance_le hstart hrun fun x hx e hauth hasset =>
      (hout x hx).not_payer hauth hasset
  exact ⟨BitVec.le_def.mpr (hkeeps .free), BitVec.le_def.mpr (hkeeps .reserved)⟩

end Runs

/-- An administrator credits one account, and another one has nothing to do with it. -/
theorem outsider_keeps_example :
    ∃ s, next .release (.bridge (.signed 2) (.deposit 5 10 1)) exampleState = some s ∧
      s.assets.free 1 5 = 10 ∧ exampleState.assets.free 1 6 ≤ s.assets.free 1 6 := by
  obtain ⟨s, hnext, hfree⟩ := exists_of_any (p := fun s : State ℕ => s.assets.free 1 5 = 10)
    (o := next .release (.bridge (.signed 2) (.deposit 5 10 1)) exampleState) (by decide +kernel)
  have hout : exampleState.Outside (.bridge (.signed 2) (.deposit 5 10 1)) 6 1 :=
    ⟨by decide, by decide +kernel, fun _ _ h => by cases h⟩
  have hrun : run (next .release) [.bridge (.signed 2) (.deposit 5 10 1)] exampleState =
      some s := by
    rw [run, hnext]
    rfl
  refine ⟨s, hnext, hfree, (outsider_keeps (w := 6) exampleConfig_counted exampleConfig_build .refl
    hrun ?_).1⟩
  rw [trace_cons_of_some hnext]
  exact List.forall_mem_singleton.mpr hout

end Bridge

end MoneyPool
