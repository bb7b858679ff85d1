import MoneyPool.GenericAsset.Genesis
import MoneyPool.Chain

/-!
# Conservation

The ledger as a machine of its own, which takes the calls of the generic-asset pallet
and the two operations on reserves that other pallets may use. Its books stay as they
start: what is held of every asset is its issuance, in every reached state, exactly if
the genesis storage has not handed out a surplus
(`MoneyPool.GenericAsset.conserved_iff`).
-/

namespace MoneyPool

namespace GenericAsset

open Pallet Pallet.Exec

variable {AccountId : Type} [DecidableEq AccountId] [Inhabited AccountId]

/-! ### The ledger as a machine -/

/-- **An operation** on the ledger. -/
inductive Op (AccountId : Type) where
  /-- A call of some origin, the administrator being the given account. -/
  | extrinsic (key : AccountId) (origin : Origin AccountId) (call : Call AccountId) :
      Op AccountId
  | reserve (assetId : AssetId) (who : AccountId) (amount : Balance) : Op AccountId
  | unreserve (assetId : AssetId) (who : AccountId) (amount : Balance)
      (lockId : Option (BitVec 128)) : Op AccountId

section Machine

variable (β : Build) (twox64 : List UInt8 → LockIdentifier)

/-- The program of an operation. -/
def Op.exec : Op AccountId → Prog β AccountId Unit
  | .extrinsic key origin call => dispatch key origin call
  | .reserve assetId who amount => do
    let _ ← GenericAsset.reserve twox64 assetId who amount
  | .unreserve assetId who amount lockId => GenericAsset.unreserve twox64 assetId who amount lockId

/-- **A transition of the ledger**: an error keeps what was written, a panic nothing. -/
def nextLedger (op : Op AccountId) (s : Store AccountId) : Option (Store AccountId) :=
  match op.exec β twox64 s with
  | .ok _ s' => some s'
  | .err _ s' => some s'
  | .panic => some s

/-- **What is held was issued**, of every asset, and so no receiver overflows. -/
structure Store.Conserved (s : Store AccountId) : Prop where
  sums : ∀ assetId, ∑ᶠ who, ((s.free assetId who).toNat + (s.reserved assetId who).toNat) =
    (s.totalIssuance.get assetId).toNat
  fits : s.ReceiversFit

variable {β twox64} {s s' : Store AccountId} {op : Op AccountId}

/-- **An operation keeps the books in order.** -/
theorem Op.exec_spec (h : s.Balanced) :
    wp (op.exec β twox64) (fun _ t => t.Balanced) (fun _ t => t.Balanced) True s := by
  have hsame : ∀ (_ : DispatchError) (t : Store AccountId), t = s → t.Balanced := by
    rintro _ _ rfl
    exact h
  cases op with
  | extrinsic key origin call =>
    exact wp_mono (dispatch_spec h key origin call) (fun _ _ ht => ht) hsame False.elim
  | reserve assetId who amount =>
    simp only [Op.exec, wp_bind, wp_pure]
    exact wp_mono (reserve_spec twox64 h assetId who amount) (fun _ _ ht => ht) hsame id
  | unreserve assetId who amount lockId =>
    exact wp_mono (unreserve_spec twox64 h assetId who amount lockId) (fun _ _ ht => ht) hsame
      False.elim

/-- What an operation leads to whether or not it fails, and its start has as well, the next
state has. -/
theorem nextLedger_of_wp {I : Store AccountId → Prop}
    (hspec : wp (op.exec β twox64) (fun _ t => I t) (fun _ t => I t) True s) (h : I s)
    (hnext : nextLedger β twox64 op s = some s') : I s' := by
  refine of_settled hspec (fun _ _ hx => ?_) (fun _ _ hx => ?_) (fun hx _ heq => ?_) hnext
  · rw [nextLedger, hx]
  · rw [nextLedger, hx]
  · rw [nextLedger, hx] at heq
    exact Option.some.inj heq ▸ h

theorem balanced_next (h : s.Balanced) (hnext : nextLedger β twox64 op s = some s') :
    s'.Balanced :=
  nextLedger_of_wp (op.exec_spec h) h hnext

end Machine

/-! ### Runs -/

section Runs

variable {β : Build} {twox64 : List UInt8 → LockIdentifier} {s s₀ : Store AccountId}
  {config : GenesisConfig AccountId} {key : AccountId}

/-- Books without a surplus stay so. -/
theorem balanced_of_reachable (h : s₀.Balanced) (hreach : Reachable (nextLedger β twox64) s₀ s) :
    s.Balanced :=
  hreach.invariant (I := fun s => s.Balanced) h fun _ _ _ hs _ hnext => balanced_next hs hnext

omit [Inhabited AccountId] in
theorem Store.Books.conserved (h : s.Balanced) : s.Conserved where
  sums assetId := by
    rw [← held_eq_finsum, h.held, add_zero]
  fits := h.receiversFit

omit [Inhabited AccountId] in
/-- Conserved books have no surplus. -/
theorem Store.Conserved.surplus_eq_zero (h : s.Conserved) {surplus : AssetId → ℕ}
    (hbooks : s.Books surplus) (assetId : AssetId) : surplus assetId = 0 := by
  have hsum := h.sums assetId
  rw [← held_eq_finsum, hbooks.held] at hsum
  omega

omit [DecidableEq AccountId] [Inhabited AccountId] in
/-- The genesis storage hands out a surplus exactly if the cast forgets some of the
endowed accounts, and there is something to endow them with. -/
theorem GenesisConfig.surplus_eq_zero_iff : (∀ assetId, config.surplus assetId = 0) ↔
    config.endowedAccounts.length < 2 ^ 32 ∨ config.initialBalance = 0 ∨ config.assets = [] := by
  have hmod := Nat.mod_add_div config.endowedAccounts.length (2 ^ 32)
  constructor
  · intro h
    rcases hassets : config.assets with _ | ⟨assetId, assets⟩
    · exact Or.inr (Or.inr rfl)
    · have hzero := h assetId
      rw [surplus, if_pos (hassets ▸ List.mem_cons_self ..), Nat.mul_eq_zero] at hzero
      rcases hzero with hbalance | hlength
      · exact Or.inr (Or.inl (BitVec.eq_of_toNat_eq hbalance))
      · have hlt := Nat.mod_lt config.endowedAccounts.length (Nat.two_pow_pos 32)
        exact Or.inl (by omega)
  · intro h assetId
    rw [surplus, ite_eq_right_iff]
    intro hmem
    rcases h with hlt | hzero | hnil
    · rw [Nat.mod_eq_of_lt hlt, Nat.sub_self, Nat.mul_zero]
    · rw [hzero]
      exact Nat.zero_mul _
    · rw [hnil] at hmem
      cases hmem

/-- **Conservation.** From a genesis whose endowments fit, the sum of all balances of
every asset is its issuance in every reached state, and no receiver overflows there,
exactly if the number of endowed accounts survives its cast to a `u32` or nothing is
handed out. -/
theorem conserved_iff (hnodup : config.endowedAccounts.Nodup)
    (hids : ∀ assetId ∈ config.assets, assetId < config.nextAssetId)
    (hfits : config.initialBalance.toNat * config.endowedAccounts.length < 2 ^ 128)
    (hgenesis : (config.build key : Prog β AccountId Unit) .empty = .ok () s₀) :
    (∀ s, Reachable (nextLedger β twox64) s₀ s → s.Conserved) ↔
      config.endowedAccounts.length < 2 ^ 32 ∨ config.initialBalance = 0 ∨
        config.assets = [] := by
  have hbooks : s₀.Books config.surplus :=
    (wp_of_ok hgenesis).mp (config.build_spec hnodup hids hfits key)
  rw [← GenesisConfig.surplus_eq_zero_iff]
  constructor
  · intro h
    exact (h s₀ .refl).surplus_eq_zero hbooks
  · intro hzero s hreach
    rw [funext hzero] at hbooks
    exact (balanced_of_reachable hbooks hreach).conserved

end Runs

theorem conserved_example : exampleConfig.genericAsset.endowedAccounts.length = 4 ∧
    ∀ s, Reachable (nextLedger .release fun _ => 0) exampleState.assets s → s.Conserved := by
  have hnodup : exampleConfig.genericAsset.endowedAccounts.Nodup := by decide +kernel
  have hids : ∀ assetId ∈ exampleConfig.genericAsset.assets,
      assetId < exampleConfig.genericAsset.nextAssetId := by
    simp [exampleConfig]
  have hfits : exampleConfig.genericAsset.initialBalance.toNat *
      exampleConfig.genericAsset.endowedAccounts.length < 2 ^ 128 := by decide +kernel
  have hlength : exampleConfig.genericAsset.endowedAccounts.length < 2 ^ 32 := by decide +kernel
  have hgenesis := MoneyPool.GenesisConfig.assets_of_build exampleConfig_build
  exact ⟨by decide +kernel, (conserved_iff hnodup hids hfits hgenesis).mpr (Or.inl hlength)⟩

/-- The endowment of a number of accounts with one unit each. -/
def crowdedConfig (n : ℕ) : GenesisConfig ℕ where
  assets := [0]
  initialBalance := 1
  endowedAccounts := List.range n
  symbols := []
  nextAssetId := 1

/-- As many accounts are endowed as there are `u32`s, and the issuance is noted down
as zero. -/
theorem not_conserved : ¬∀ (config : GenesisConfig ℕ) (s₀ : Store ℕ),
    config.endowedAccounts.Nodup → (∀ assetId ∈ config.assets, assetId < config.nextAssetId) →
    config.initialBalance.toNat * config.endowedAccounts.length < 2 ^ 128 →
    (config.build 0 : Prog .release ℕ Unit) .empty = .ok () s₀ →
    ∀ s, Reachable (nextLedger .release fun _ => 0) s₀ s →
      ∀ assetId, ∑ᶠ who, ((s.free assetId who).toNat + (s.reserved assetId who).toNat) =
        (s.totalIssuance.get assetId).toNat := by
  intro h
  obtain ⟨n, hn⟩ : ∃ n, n = 2 ^ 32 := ⟨_, rfl⟩
  have hone : (crowdedConfig n).initialBalance.toNat = 1 := rfl
  have hlength : (crowdedConfig n).endowedAccounts.length = n := List.length_range
  have hnodup : (crowdedConfig n).endowedAccounts.Nodup := List.nodup_range
  have hids : ∀ assetId ∈ (crowdedConfig n).assets, assetId < (crowdedConfig n).nextAssetId := by
    simp [crowdedConfig]
  have hfits : (crowdedConfig n).initialBalance.toNat * (crowdedConfig n).endowedAccounts.length <
      2 ^ 128 := by
    rw [hone, hlength, hn]
    norm_num
  have hspec : wp ((crowdedConfig n).build 0 : Prog .release ℕ Unit)
      (fun _ t => t.Books (crowdedConfig n).surplus) (fun _ _ => False) False .empty :=
    wp_mono (GenesisConfig.build_spec _ hnodup hids hfits 0) (fun _ _ h => h)
      (fun _ _ => False.elim) fun hne => hne rfl
  obtain ⟨_, s₀, hbuild, hbooks⟩ := exists_ok_of_wp hspec
  have hsum := h (crowdedConfig n) s₀ hnodup hids hfits hbuild s₀ .refl 0
  have hsurplus : (crowdedConfig n).surplus 0 = 2 ^ 32 := by
    rw [GenesisConfig.surplus, if_pos (by simp [crowdedConfig]), hone, hlength, hn]
    norm_num
  rw [← held_eq_finsum, hbooks.held, hsurplus] at hsum
  exact absurd hsum (Nat.lt_add_of_pos_right (by norm_num)).ne'

end GenericAsset

end MoneyPool
