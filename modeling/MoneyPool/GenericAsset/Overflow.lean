import MoneyPool.GenericAsset.Entries
import MoneyPool.GenericAsset.Locks

/-!
# No overflow in the ledger

A transfer, a reserve and an unreserve add to a balance with a plain `+`, which panics in one build
and wraps in another. Nothing in these functions checks that the sum fits: it does because what all
accounts hold of an asset is its issuance, so that what one of them gives another one can take. That
is an invariant of the ledger, and therefore a matter of whole runs.

In a run from a genesis that is counted, no operation panics, and every build does the same as the
others (`MoneyPool.GenericAsset.never_overflows`), as long as there are ids for the locks.
-/

namespace MoneyPool

namespace GenericAsset

open Pallet Pallet.Exec

variable {AccountId : Type} [DecidableEq AccountId] {β β' : Build}

/-- An account's total balance of an asset. -/
def totalBalance (assetId : AssetId) (who : AccountId) : Prog β AccountId Balance := do
  add (← gets fun s => s.free assetId who) (← gets fun s => s.reserved assetId who)

/-! ### One operation -/

section Programs

variable {s : Store AccountId}

/-- **A total is read** without overflow where the books are in order, and it was issued. -/
theorem totalBalance_spec (h : s.Balanced) (assetId : AssetId) (who : AccountId) :
    wp (totalBalance assetId who : Prog β AccountId Balance)
      (fun total t => t = s ∧
        total.toNat = (s.free assetId who).toNat + (s.reserved assetId who).toNat ∧
        total ≤ s.totalIssuance.get assetId)
      (fun _ _ => False) False s := by
  have hone := free_add_reserved_le_held s assetId who
  rw [h.held assetId, Nat.add_zero] at hone
  have hfits := lt_of_le_of_lt hone (s.totalIssuance.get assetId).isLt
  have htotal := BitVec.toNat_add_of_lt hfits
  simp only [totalBalance, wp_bind, wp_gets, wp_add]
  refine ⟨fun hno => hno fun _ => hfits, fun _ => ⟨trivial, htotal, ?_⟩⟩
  rwa [BitVec.le_def, htotal]

/-- A transfer is the same in every build, where its receiver has room. -/
theorem makeTransfer_build (h : s.ReceiversFit) (assetId : AssetId)
    (fromAccount toAccount : AccountId) (amount : Balance) :
    (makeTransfer assetId fromAccount toAccount amount : Prog β AccountId Unit) s =
      (makeTransfer assetId fromAccount toAccount amount : Prog β' AccountId Unit) s := by
  refine eq_of_wp_iff fun Q E P => ?_
  rw [wp_makeTransfer, wp_makeTransfer]
  refine and_congr (imp_congr_right fun hle => ?_) Iff.rfl
  have hroom := h.transfer assetId fromAccount toAccount amount hle
  exact guard_congr (fun _ => hroom) (fun _ => hroom)

variable (twox64 : List UInt8 → LockIdentifier)

/-- A reserve is the same in every build, where there is room and another lock id. -/
theorem reserve_build (h : s.ReceiversFit) (hroom : s.nextLockId.toNat + 1 < 2 ^ 128)
    (assetId : AssetId) (who : AccountId) (amount : Balance) :
    (reserve twox64 assetId who amount : Prog β AccountId (BitVec 128)) s =
      (reserve twox64 assetId who amount : Prog β' AccountId (BitVec 128)) s := by
  refine eq_of_wp_iff fun Q E P => ?_
  rw [wp_reserve, wp_reserve]
  refine and_congr (imp_congr_right fun hle => ?_) Iff.rfl
  have hfits := h.reserve assetId who amount hle
  exact guard_congr ⟨fun _ => hfits, fun _ => hroom⟩ ⟨fun _ => hfits, fun _ => hroom⟩

/-- An unreserve is the same in every build, where there is room. -/
theorem unreserve_build (h : s.ReceiversFit) (assetId : AssetId) (who : AccountId)
    (amount : Balance) (lockId : Option (BitVec 128)) :
    (unreserve twox64 assetId who amount lockId : Prog β AccountId Unit) s =
      (unreserve twox64 assetId who amount lockId : Prog β' AccountId Unit) s := by
  refine eq_of_wp_iff fun Q E P => ?_
  rw [wp_unreserve, wp_unreserve]
  refine and_congr (imp_congr_right fun hle => and_congr ?_ Iff.rfl) Iff.rfl
  have hfits := h.unreserve assetId who amount hle
  exact forall_congr' fun _ => imp_congr_right fun _ =>
    guard_congr (fun _ => hfits) (fun _ => hfits)

variable [Inhabited AccountId]

/-- A call is the same in every build: all of its sums are checked, but those of a transfer. -/
theorem dispatch_build (h : s.ReceiversFit) (key : AccountId) (origin : Origin AccountId)
    (call : Call AccountId) :
    (dispatch key origin call : Prog β AccountId Unit) s =
      (dispatch key origin call : Prog β' AccountId Unit) s := by
  cases call with
  | transfer assetId toAccount amount =>
    refine eq_of_wp_iff fun Q E P => ?_
    have hsame (who : AccountId) :
        wp (makeTransfer assetId who toAccount amount : Prog β AccountId Unit) Q E P s ↔
          wp (makeTransfer assetId who toAccount amount : Prog β' AccountId Unit) Q E P s := by
      unfold wp
      rw [makeTransfer_build h]
    simp only [dispatch, transfer, makeTransferWithEvent, wp_bind, wp_ensureSigned, wp_ensure,
      hsame]
  | _ => rfl

/-- **An operation is the same in every build**, where the books are in order and there is another
lock id. -/
theorem Op.exec_build (h : s.Balanced) (hroom : s.nextLockId.toNat + 1 < 2 ^ 128)
    (op : Op AccountId) : op.exec β twox64 s = op.exec β' twox64 s := by
  cases op with
  | extrinsic key origin call => exact dispatch_build h.receiversFit key origin call
  | reserve assetId who amount =>
    rw [Op.exec, Op.exec, bind_apply, bind_apply, reserve_build twox64 h.receiversFit hroom]
    rfl
  | unreserve assetId who amount lockId =>
    exact unreserve_build twox64 h.receiversFit assetId who amount lockId

/-- **An operation does not panic** there. -/
theorem Op.exec_completes (h : s.Balanced) (hroom : s.nextLockId.toNat + 1 < 2 ^ 128)
    (op : Op AccountId) : (op.exec β twox64).Completes s := by
  cases op with
  | extrinsic key origin call =>
    exact wp_mono (dispatch_spec h key origin call) (fun _ _ _ => trivial) (fun _ _ _ => trivial) id
  | reserve assetId who amount =>
    rw [Completes, Op.exec, wp_bind, wp_reserve]
    refine ⟨fun hle => ⟨fun hno => hno ⟨fun _ => ?_, fun _ => hroom⟩, fun _ => trivial⟩,
      fun _ => trivial⟩
    exact h.receiversFit.reserve assetId who amount hle
  | unreserve assetId who amount lockId =>
    exact wp_mono (unreserve_spec twox64 h assetId who amount lockId) (fun _ _ _ => trivial)
      (fun _ _ _ => trivial) id

end Programs

/-! ### Runs -/

section Runs

variable [Inhabited AccountId] {twox64 : List UInt8 → LockIdentifier} {s s' s₀ : Store AccountId}
  {op : Op AccountId} {ops : List (Op AccountId)}

/-- An operation uses up one lock id at most. -/
theorem nextLockId_next (hnext : nextLedger β twox64 op s = some s') :
    s'.nextLockId.toNat ≤ s.nextLockId.toNat + 1 := by
  have heff := nextLedger_lockEffect hnext
  generalize op.lockEvent β twox64 s = given at heff
  cases heff with
  | same _ hsame =>
    rw [hsame.nextLockId]
    exact Nat.le_succ _
  | taken assetId who amount =>
    change (s.nextLockId + 1).toNat ≤ _
    rw [BitVec.toNat_add]
    exact Nat.mod_le _ _
  | released => exact Nat.le_succ _

/-- **A run is the same in every build**, and no operation panics in it. -/
theorem run_build (h : s₀.Balanced) (hroom : s₀.nextLockId.toNat + ops.length < 2 ^ 128)
    (hrun : run (nextLedger β twox64) ops s₀ = some s) :
    s.Balanced ∧ run (nextLedger β' twox64) ops s₀ = some s ∧
      ∀ x ∈ trace (nextLedger β twox64) ops s₀,
        x.2.1.exec β twox64 x.1 = x.2.1.exec β' twox64 x.1 ∧
          x.2.1.exec β twox64 x.1 ≠ .panic := by
  induction ops generalizing s₀ with
  | nil =>
    cases hrun
    exact ⟨h, rfl, fun x hx => absurd hx List.not_mem_nil⟩
  | cons op ops ih =>
    rw [List.length_cons] at hroom
    have hone : s₀.nextLockId.toNat + 1 < 2 ^ 128 := by omega
    obtain ⟨s₁, hop, hops⟩ := Option.bind_eq_some_iff.mp hrun
    have hfirst : op.exec β twox64 s₀ = op.exec β' twox64 s₀ := op.exec_build twox64 h hone
    have hlocks := nextLockId_next hop
    obtain ⟨hend, hrest, htrace⟩ := ih (balanced_next h hop) (by omega) hops
    refine ⟨hend, ?_, ?_⟩
    · have hsame : nextLedger β' twox64 op s₀ = some s₁ := by
        rw [← hop, nextLedger, nextLedger, hfirst]
      exact Option.bind_eq_some_iff.mpr ⟨s₁, hsame, hrest⟩
    · rw [trace_cons_of_some hop, List.forall_mem_cons]
      exact ⟨⟨hfirst, completes_iff_ne_panic.mp (op.exec_completes twox64 h hone)⟩, htrace⟩

/-- **The ledger never overflows.** In every run of fewer than `2 ^ 128 - 1` operations from a
counted genesis, whatever the build is, no operation panics, each of them ends as it does in the
optimised build, and so does the run. The total of an account can be read at the end, and it is
at most what was issued. -/
theorem never_overflows {config : GenesisConfig AccountId} {key : AccountId}
    (hcounted : config.Counted)
    (hgenesis : (config.build key : Prog β' AccountId Unit) .empty = .ok () s₀)
    (hfew : ops.length + 1 < 2 ^ 128) (hrun : run (nextLedger β twox64) ops s₀ = some s) :
    run (nextLedger .release twox64) ops s₀ = some s ∧
      (∀ x ∈ trace (nextLedger β twox64) ops s₀,
        x.2.1.exec β twox64 x.1 = x.2.1.exec .release twox64 x.1 ∧
          x.2.1.exec β twox64 x.1 ≠ .panic) ∧
      ∀ assetId who, ∃ total, (totalBalance assetId who : Prog β AccountId Balance) s =
          .ok total s ∧
        total.toNat = (s.free assetId who).toNat + (s.reserved assetId who).toNat ∧
        total ≤ s.totalIssuance.get assetId := by
  have hsame : Store.empty.SameReserves s₀ := (wp_of_ok hgenesis).mp (config.build_reserves key)
  have hroom : s₀.nextLockId.toNat + ops.length < 2 ^ 128 := by
    rw [hsame.nextLockId, Nat.add_comm]
    exact hfew
  obtain ⟨hend, hrelease, htrace⟩ := run_build (hcounted.balanced hgenesis) hroom hrun
  refine ⟨hrelease, htrace, fun assetId who => ?_⟩
  obtain ⟨total, t, hx, hstays, htotal, hle⟩ :=
    exists_ok_of_wp (totalBalance_spec (β := β) hend assetId who)
  rw [hstays] at hx
  exact ⟨total, hx, htotal, hle⟩

theorem never_overflows_example :
    ∃ s total, run (nextLedger .debug Twox.twox64) [.extrinsic 9 .root (.create 100 []),
        .extrinsic 9 (.signed 9) (.transfer 5 6 60), .reserve 5 6 10] exampleState.assets =
        some s ∧
      (totalBalance 5 6 : Prog .debug ℕ Balance) s = .ok total s ∧
      total ≤ s.totalIssuance.get 5 := by
  obtain ⟨s, hrun, -⟩ := exists_of_any (p := fun _ => True)
    (o := run (nextLedger .debug Twox.twox64) [.extrinsic 9 .root (.create 100 []),
      .extrinsic 9 (.signed 9) (.transfer 5 6 60), .reserve 5 6 10] exampleState.assets)
    (by decide +kernel)
  have hgenesis := MoneyPool.GenesisConfig.assets_of_build exampleConfig_build
  obtain ⟨total, hx, -, hle⟩ :=
    (never_overflows exampleConfig_counted hgenesis (by simp) hrun).2.2 5 6
  exact ⟨s, total, hrun, hx, hle⟩

end Runs

end GenericAsset

end MoneyPool
