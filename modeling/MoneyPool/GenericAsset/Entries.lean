import MoneyPool.Pallet.Bookkeeping
import MoneyPool.Pallet.Twox
import MoneyPool.GenericAsset.Conservation

/-!
# The ledger as a book

`MoneyPool.GenericAsset.Store.book` forgets everything about the ledger but what each account has,
free or reserved, and what was issued. The book is a `Pallet.Book`, and the machine of the ledger
refines it: whatever an operation does to the balances, it does by posting entries, each of which
somebody has authorised (`MoneyPool.GenericAsset.nextLedger_posts`). Who may authorise what is
`MoneyPool.GenericAsset.Store.Authorises`: the signer pays for a transfer, issuing takes a mint
permission, retiring a burn permission.
-/

namespace MoneyPool

namespace GenericAsset

open Pallet Pallet.Exec

variable {AccountId : Type}

/-! ### The book of a ledger -/

/-- Where an account keeps what it has. -/
inductive Pocket where
  | free
  | reserved
  deriving DecidableEq

instance : Fintype Pocket := ⟨{.free, .reserved}, fun pocket => by cases pocket <;> decide⟩

variable [DecidableEq AccountId]

/-- What is in a pocket of an account. -/
def Store.inPocket (s : Store AccountId) (assetId : AssetId) : AccountId × Pocket → ℕ
  | (who, .free) => (s.free assetId who).toNat
  | (who, .reserved) => (s.reserved assetId who).toNat

section Book

variable {s t : Store AccountId} {assetId asset' : AssetId} {who fromAccount toAccount : AccountId}
  {amount total : Balance}

/-- Only finitely many pockets have something in them. -/
theorem finite_inPocket (s : Store AccountId) (assetId : AssetId) :
    (Function.support (s.inPocket assetId)).Finite := by
  have hfree := (finite_balances s.freeBalance assetId).image fun who => (who, Pocket.free)
  have hreserved := (finite_balances s.reservedBalance assetId).image
    fun who => (who, Pocket.reserved)
  refine (hfree.union hreserved).subset ?_
  rintro ⟨who, _ | _⟩ hne
  · exact Or.inl ⟨who, hne, rfl⟩
  · exact Or.inr ⟨who, hne, rfl⟩

/-- **The book of a ledger.** -/
noncomputable def Store.book (s : Store AccountId) : Book AssetId (AccountId × Pocket) where
  balance assetId := Finsupp.ofSupportFinite (s.inPocket assetId) (finite_inPocket s assetId)
  supply assetId := (s.totalIssuance.get assetId).toNat

theorem book_balance (w : AccountId × Pocket) : s.book.balance assetId w = s.inPocket assetId w :=
  rfl

/-- What is on the book of an asset is what is held of it. -/
theorem degree_book (s : Store AccountId) (assetId : AssetId) :
    (s.book.balance assetId).degree = s.held assetId := by
  have hpockets : ∀ who, ∑ᶠ pocket, s.inPocket assetId (who, pocket) =
      (s.free assetId who).toNat + (s.reserved assetId who).toNat := fun who =>
    finsum_eq_sum_of_fintype fun pocket => s.inPocket assetId (who, pocket)
  calc (s.book.balance assetId).degree
      = ∑ᶠ w, s.inPocket assetId w :=
        (finsum_eq_sum_of_support_subset _
          (Finsupp.fun_support_eq (s.book.balance assetId)).subset).symm
    _ = ∑ᶠ who, ∑ᶠ pocket, s.inPocket assetId (who, pocket) :=
        finsum_curry _ (finite_inPocket s assetId)
    _ = s.held assetId := by
        rw [held_eq_finsum]
        exact finsum_congr hpockets

/-- Books in order are sound books. -/
theorem Store.Books.sound (h : s.Balanced) : s.book.Sound := fun assetId => by
  rw [degree_book, h.held]
  rfl

/-! ### Posting -/

omit [DecidableEq AccountId] in
/-- The two pockets of an account are different ones. -/
theorem free_ne_reserved (who : AccountId) : (who, Pocket.free) ≠ (who, Pocket.reserved) :=
  fun h => Pocket.noConfusion (Prod.ext_iff.mp h).2

theorem inPocket_setFree (s : Store AccountId) (assetId a : AssetId) (who : AccountId)
    (balance : Balance) (w : AccountId × Pocket) :
    (s.setFree assetId who balance).inPocket a w =
      if a = assetId ∧ w = (who, .free) then balance.toNat else s.inPocket a w := by
  obtain ⟨who', _ | _⟩ := w
  · simp only [Store.inPocket, Store.free_setFree, Prod.mk.injEq, and_true]
    split <;> rfl
  · exact (if_neg fun h => Pocket.noConfusion (Prod.ext_iff.mp h.2).2).symm

theorem inPocket_setReserved (s : Store AccountId) (assetId a : AssetId) (who : AccountId)
    (balance : Balance) (w : AccountId × Pocket) :
    (s.setReserved assetId who balance).inPocket a w =
      if a = assetId ∧ w = (who, .reserved) then balance.toNat else s.inPocket a w := by
  obtain ⟨who', _ | _⟩ := w
  · exact (if_neg fun h => Pocket.noConfusion (Prod.ext_iff.mp h.2).2).symm
  · simp only [Store.inPocket, Store.reserved, Store.setReserved, StorageMap.get_insert,
      Prod.mk.injEq, and_true]
    split <;> rfl

/-- **A transfer** posts a payment of free balance. -/
theorem post_moved (hle : amount ≤ s.free assetId fromAccount)
    (hfits : fromAccount ≠ toAccount →
      (s.free assetId toAccount).toNat + amount.toNat < 2 ^ 128) :
    s.book.Post (.pay assetId (fromAccount, .free) (toAccount, .free) amount.toNat)
      (s.moved assetId fromAccount toAccount amount).book := by
  have hnat : amount.toNat ≤ (s.free assetId fromAccount).toNat := BitVec.le_def.mp hle
  rcases eq_or_ne fromAccount toAccount with rfl | hne
  · rw [Store.moved_self]
    exact .of_pay_self hnat
  refine .of_pay (fun h => hne (Prod.ext_iff.mp h).1) ?_ ?_ (fun a w hw => ?_) ?_
  · show ((s.moved ..).free ..).toNat + _ = _
    rw [Store.free_moved_from hne, BitVec.toNat_sub_of_le hle]
    exact Nat.sub_add_cancel hnat
  · show ((s.moved ..).free ..).toNat = _
    rw [Store.free_moved_to hne, BitVec.toNat_add_of_lt (hfits hne)]
    rfl
  · show (s.moved ..).inPocket a w = s.inPocket a w
    rw [Store.moved, if_neg hne, inPocket_setFree, if_neg fun h => (hw h.1).2 h.2,
      inPocket_setFree, if_neg fun h => (hw h.1).1 h.2]
  · funext a
    show ((s.moved ..).totalIssuance.get a).toNat = _
    rw [Store.moved_totalIssuance]
    rfl

/-- **A reserve** posts a payment out of the free pocket into the reserved one. -/
theorem post_locked (twox64 : List UInt8 → LockIdentifier) (hle : amount ≤ s.free assetId who)
    (hfits : (s.reserved assetId who).toNat + amount.toNat < 2 ^ 128) :
    s.book.Post (.pay assetId (who, .free) (who, .reserved) amount.toNat)
      (s.locked twox64 assetId who amount).book := by
  have hnat : amount.toNat ≤ (s.free assetId who).toNat := BitVec.le_def.mp hle
  have hpocket : ∀ a w, (s.locked twox64 assetId who amount).inPocket a w =
      ((s.setReserved assetId who (s.reserved assetId who + amount)).setFree assetId who
        (s.free assetId who - amount)).inPocket a w := fun _ _ => rfl
  refine .of_pay (free_ne_reserved who) ?_ ?_ (fun a w hw => ?_) rfl
  · rw [book_balance, hpocket, inPocket_setFree, if_pos ⟨rfl, rfl⟩, BitVec.toNat_sub_of_le hle]
    exact Nat.sub_add_cancel hnat
  · rw [book_balance, hpocket, inPocket_setFree, if_neg fun h => free_ne_reserved who h.2.symm,
      inPocket_setReserved, if_pos ⟨rfl, rfl⟩, BitVec.toNat_add_of_lt hfits]
    rfl
  · rw [book_balance, hpocket, inPocket_setFree, if_neg fun h => (hw h.1).1 h.2,
      inPocket_setReserved, if_neg fun h => (hw h.1).2 h.2]
    rfl

/-- **An unreserve** posts the payment back. -/
theorem post_unlocked (twox64 : List UInt8 → LockIdentifier) (lockId : BitVec 128)
    (hle : amount ≤ s.reserved assetId who)
    (hfits : (s.free assetId who).toNat + amount.toNat < 2 ^ 128) :
    s.book.Post (.pay assetId (who, .reserved) (who, .free) amount.toNat)
      (s.unlocked twox64 assetId who amount lockId).book := by
  have hnat : amount.toNat ≤ (s.reserved assetId who).toNat := BitVec.le_def.mp hle
  have hpocket : ∀ a w, (s.unlocked twox64 assetId who amount lockId).inPocket a w =
      ((s.setFree assetId who (s.free assetId who + amount)).setReserved assetId who
        (s.reserved assetId who - amount)).inPocket a w := fun _ _ => rfl
  refine .of_pay (free_ne_reserved who).symm ?_ ?_ (fun a w hw => ?_) rfl
  · rw [book_balance, hpocket, inPocket_setReserved, if_pos ⟨rfl, rfl⟩,
      BitVec.toNat_sub_of_le hle]
    exact Nat.sub_add_cancel hnat
  · rw [book_balance, hpocket, inPocket_setReserved,
      if_neg fun h => free_ne_reserved who h.2, inPocket_setFree, if_pos ⟨rfl, rfl⟩,
      BitVec.toNat_add_of_lt hfits]
    rfl
  · rw [book_balance, hpocket, inPocket_setReserved, if_neg fun h => (hw h.1).1 h.2,
      inPocket_setFree, if_neg fun h => (hw h.1).2 h.2]
    rfl

/-- **An issuance and a free balance** that grow alike post an issue. -/
theorem post_issued (total : Balance) (h : t.book = (Store.setFree
      { s with totalIssuance := s.totalIssuance.insert assetId total } assetId who amount).book)
    {n : ℕ} (hbalance : amount.toNat = (s.free assetId who).toNat + n)
    (htotal : total.toNat = (s.totalIssuance.get assetId).toNat + n) :
    s.book.Post (.issue assetId (who, .free) n) t.book := by
  rw [h]
  refine .of_issue ?_ (fun a w hw => ?_) ?_ fun a ha => ?_
  · rw [book_balance, inPocket_setFree, if_pos ⟨rfl, rfl⟩]
    exact hbalance
  · rw [book_balance, inPocket_setFree, if_neg fun h => hw h.1 h.2]
    rfl
  · show ((s.totalIssuance.insert assetId total).get assetId).toNat = _
    rw [StorageMap.get_insert, if_pos rfl, htotal]
    rfl
  · show ((s.totalIssuance.insert assetId total).get a).toNat = _
    rw [StorageMap.get_insert, if_neg ha]
    rfl

/-- **An issuance and a free balance** that fall alike post a retirement. -/
theorem post_retired {n : ℕ} (hbalance : amount.toNat + n = (s.free assetId who).toNat)
    (htotal : total.toNat + n = (s.totalIssuance.get assetId).toNat) :
    s.book.Post (.retire assetId (who, .free) n) (Store.setFree
      { s with totalIssuance := s.totalIssuance.insert assetId total } assetId who
      amount).book := by
  refine .of_retire ?_ (fun a w hw => ?_) ?_ fun a ha => ?_
  · rw [book_balance, inPocket_setFree, if_pos ⟨rfl, rfl⟩]
    exact hbalance
  · rw [book_balance, inPocket_setFree, if_neg fun h => hw h.1 h.2]
    rfl
  · show ((s.totalIssuance.insert assetId total).get assetId).toNat + n = _
    rw [StorageMap.get_insert, if_pos rfl, htotal]
    rfl
  · show ((s.totalIssuance.insert assetId total).get a).toNat = _
    rw [StorageMap.get_insert, if_neg ha]
    rfl

end Book

/-! ### Who may post what -/

variable [Inhabited AccountId]

/-- **What an operation may post**, and by whose authority. -/
inductive Store.Authorises (s : Store AccountId) :
    Op AccountId → Entry AssetId (AccountId × Pocket) → Prop
  /-- The signer pays for a transfer. -/
  | transfer (key who toAccount : AccountId) (assetId : AssetId) (amount : Balance) :
      s.Authorises (.extrinsic key (.signed who) (.transfer assetId toAccount amount))
        (.pay assetId (who, .free) (toAccount, .free) amount.toNat)
  /-- Who may mint, issues. -/
  | mint (key who toAccount : AccountId) (assetId : AssetId) (amount : Balance)
      (allowed : s.checkPermission assetId who .mint = true) :
      s.Authorises (.extrinsic key (.signed who) (.mint assetId toAccount amount))
        (.issue assetId (toAccount, .free) amount.toNat)
  /-- Who may burn, retires – what anybody has. -/
  | burn (key who toAccount : AccountId) (assetId : AssetId) (amount : Balance)
      (allowed : s.checkPermission assetId who .burn = true) :
      s.Authorises (.extrinsic key (.signed who) (.burn assetId toAccount amount))
        (.retire assetId (toAccount, .free) amount.toNat)
  /-- An asset is created with an issuance that the administrator gets. -/
  | create (key : AccountId) (initialIssuance : Balance) (symbol : StrBytes) :
      s.Authorises (.extrinsic key .root (.create initialIssuance symbol))
        (.issue s.nextAssetId (key, .free) initialIssuance.toNat)
  /-- An asset is created with an issuance that nobody in particular gets. -/
  | createReserved (key : AccountId) (assetId : AssetId) (options : AssetOptions AccountId) :
      s.Authorises (.extrinsic key .root (.createReserved assetId options))
        (.issue assetId (default, .free) options.initialIssuance.toNat)
  | reserve (assetId : AssetId) (who : AccountId) (amount : Balance) :
      s.Authorises (.reserve assetId who amount)
        (.pay assetId (who, .free) (who, .reserved) amount.toNat)
  | unreserve (assetId : AssetId) (who : AccountId) (amount : Balance)
      (lockId : Option (BitVec 128)) :
      s.Authorises (.unreserve assetId who amount lockId)
        (.pay assetId (who, .reserved) (who, .free) amount.toNat)

/-- **An operation posts** entries it may post, and nothing else happens to the book. -/
def Store.PostsFor (s : Store AccountId) (op : Op AccountId) (t : Store AccountId) : Prop :=
  ∃ es, (∀ e ∈ es, s.Authorises op e) ∧ s.book.Posts es t.book

section Operations

variable {β : Build} {twox64 : List UInt8 → LockIdentifier} {s s' t : Store AccountId}
  {op : Op AccountId} {e : Entry AssetId (AccountId × Pocket)} {P : Prop}

theorem Store.PostsFor.none (h : t.book = s.book) : s.PostsFor op t :=
  ⟨[], fun _ he => absurd he List.not_mem_nil, h ▸ .nil _⟩

theorem Store.PostsFor.one (hauth : s.Authorises op e) (h : s.book.Post e t.book) :
    s.PostsFor op t :=
  ⟨[e], List.forall_mem_singleton.mpr hauth, .one h⟩

omit [Inhabited AccountId] in
/-- **Creating an asset** posts its issuance, because there was none of it before. -/
theorem createAsset_posts [Inhabited AccountId] (h : s.Balanced) {choice : Option AssetId}
    {fromAccount : Option AccountId} {options : AssetOptions AccountId} :
    wp (createAsset choice fromAccount options : Prog β AccountId Unit)
      (fun _ t => s.book.Post (.issue (choice.getD s.nextAssetId) (fromAccount.getD default, .free)
        options.initialIssuance.toNat) t.book) (fun _ t => t = s) P s := by
  -- what was not issued is held by nobody
  have hzero : ∀ assetId, s.totalIssuance.containsKey assetId = false →
      (s.totalIssuance.get assetId).toNat = 0 ∧
        (s.free assetId (fromAccount.getD default)).toNat = 0 :=
    fun assetId hfree => by
      have hheld := h.held_of_not_issued hfree
      have hle := free_add_reserved_le_held s assetId (fromAccount.getD default)
      have hissued := h.held assetId
      omega
  cases choice with
  | some assetId =>
    simp only [createAsset, takeAssetId, wp_bind, wp_gets, wp_ensure, wp_pure, wp_modify,
      Option.getD_some, implies_true, and_true]
    intro hfree _
    obtain ⟨htotal, hbalance⟩ := hzero assetId hfree
    exact post_issued options.initialIssuance rfl (by omega) (by omega)
  | none =>
    simp only [createAsset, takeAssetId, wp_bind, wp_gets, wp_okOr_checkedAdd, wp_modify, wp_pure,
      Option.getD_none, implies_true, true_and]
    intro _
    have hfree : s.totalIssuance.containsKey s.nextAssetId = false := by
      by_contra hkey
      rw [Bool.not_eq_false] at hkey
      exact BitVec.lt_irrefl _ (h.given _ hkey)
    obtain ⟨htotal, hbalance⟩ := hzero _ hfree
    exact post_issued options.initialIssuance rfl (by omega) (by omega)

/-- **A call posts** what it may post if it succeeds, and nothing if it fails. -/
theorem dispatch_posts (h : s.Balanced) (key : AccountId) (origin : Origin AccountId)
    (call : Call AccountId) :
    wp (dispatch key origin call : Prog β AccountId Unit)
      (fun _ t => s.PostsFor (.extrinsic key origin call) t) (fun _ t => t = s) False s := by
  cases call with
  | create initialIssuance symbol =>
    simp only [dispatch, create, wp_bind, wp_ensureRoot, wp_gets, wp_modify]
    refine ⟨?_, fun _ => trivial⟩
    rintro rfl
    refine wp_mono (createAsset_posts h) (fun _ t ht => ?_) (fun _ _ ht => ht) id
    exact .one (.create key initialIssuance symbol) ht
  | transfer assetId toAccount amount =>
    simp only [dispatch, transfer, makeTransferWithEvent, wp_bind, wp_ensureSigned, wp_ensure,
      wp_makeTransfer]
    refine ⟨?_, fun _ => trivial⟩
    rintro who rfl
    refine ⟨fun _ => ⟨fun hle => ?_, fun _ => trivial⟩, fun _ => trivial⟩
    have hfits := h.receiversFit.transfer assetId who toAccount amount hle
    exact ⟨fun hno => hno fun _ => hfits,
      fun _ => .one (.transfer key who toAccount assetId amount) (post_moved hle hfits)⟩
  | updatePermission assetId newPermission =>
    simp only [dispatch, updatePermission, wp_bind, wp_ensureSigned, wp_gets, wp_ensure, wp_modify]
    exact ⟨fun _ _ => ⟨fun _ => .none rfl, fun _ => trivial⟩, fun _ => trivial⟩
  | mint assetId toAccount amount =>
    simp only [dispatch, mint, mintFree, wp_bind, wp_ensureSigned, wp_gets, wp_ensure,
      wp_okOr_checkedAdd, wp_modify]
    refine ⟨?_, fun _ => trivial⟩
    rintro who rfl
    refine ⟨fun hcheck => ⟨fun _ => trivial, fun htotal => ⟨fun _ => trivial, fun hfree => ?_⟩⟩,
      fun _ => trivial⟩
    refine .one (.mint key who toAccount assetId amount hcheck) (post_issued _ rfl ?_ ?_)
    · exact BitVec.toNat_add_of_lt hfree
    · exact BitVec.toNat_add_of_lt htotal
  | burn assetId toAccount amount =>
    simp only [dispatch, burn, burnFree, wp_bind, wp_ensureSigned, wp_gets, wp_ensure,
      wp_okOr_checkedSub, wp_modify]
    refine ⟨?_, fun _ => trivial⟩
    rintro who rfl
    refine ⟨fun hcheck => ⟨fun _ => trivial, fun htotal => ⟨fun _ => trivial, fun hfree => ?_⟩⟩,
      fun _ => trivial⟩
    refine .one (.burn key who toAccount assetId amount hcheck) (post_retired ?_ ?_)
    · rw [BitVec.toNat_sub_of_le (BitVec.le_def.mpr hfree)]
      exact Nat.sub_add_cancel hfree
    · rw [BitVec.toNat_sub_of_le (BitVec.le_def.mpr htotal)]
      exact Nat.sub_add_cancel htotal
  | createReserved assetId options =>
    simp only [dispatch, createReserved, wp_bind, wp_ensureRoot]
    refine ⟨?_, fun _ => trivial⟩
    rintro rfl
    refine wp_mono (createAsset_posts h) (fun _ t ht => ?_) (fun _ _ ht => ht) id
    exact .one (.createReserved key assetId options) ht

/-- **The ledger refines the book**: whatever an operation does to the balances, it does by
posting entries that it may post. -/
theorem nextLedger_posts (h : s.Balanced) (hnext : nextLedger β twox64 op s = some s') :
    s.PostsFor op s' := by
  have hsame : s.PostsFor op s := .none rfl
  refine nextLedger_of_wp (I := fun t => s.PostsFor op t) ?_ hsame hnext
  cases op with
  | extrinsic key origin call =>
    refine wp_mono (dispatch_posts h key origin call) (fun _ _ ht => ht) ?_ False.elim
    rintro _ _ rfl
    exact hsame
  | reserve assetId who amount =>
    rw [Op.exec, wp_bind, wp_reserve]
    refine ⟨fun hle => ⟨fun _ => trivial, fun _ => ?_⟩, fun _ => hsame⟩
    exact .one (.reserve assetId who amount)
      (post_locked twox64 hle (h.receiversFit.reserve assetId who amount hle))
  | unreserve assetId who amount choice =>
    rw [Op.exec, wp_unreserve]
    refine ⟨fun hle => ⟨fun lockId _ => ⟨fun _ => trivial, fun _ => ?_⟩, fun _ => hsame⟩,
      fun _ => hsame⟩
    exact .one (.unreserve assetId who amount choice)
      (post_unlocked twox64 lockId hle (h.receiversFit.unreserve assetId who amount hle))

/-- **The ledger keeps its book**, once its books are in order. -/
theorem keeps_book : Keeps (nextLedger β twox64) Store.book Store.Authorises
    fun s : Store AccountId => s.Balanced where
  keeps _ _ _ h hnext := balanced_next h hnext
  posts _ _ _ h hnext := nextLedger_posts h hnext

end Operations

/-! ### Runs -/

omit [DecidableEq AccountId] [Inhabited AccountId] in
/-- **A genesis that is counted**: nobody is endowed twice, the ids of the assets are given out, and
the endowments fit a balance and their number a `u32`. -/
structure GenesisConfig.Counted (config : GenesisConfig AccountId) : Prop where
  nodup : config.endowedAccounts.Nodup
  ids : ∀ assetId ∈ config.assets, assetId < config.nextAssetId
  fits : config.initialBalance.toNat * config.endowedAccounts.length < 2 ^ 128
  count : config.endowedAccounts.length < 2 ^ 32

/-- A genesis that is counted starts with its books in order. -/
theorem GenesisConfig.Counted.balanced {β : Build} {config : GenesisConfig AccountId}
    {key : AccountId} {s₀ : Store AccountId} (h : config.Counted)
    (hgenesis : (config.build key : Prog β AccountId Unit) .empty = .ok () s₀) : s₀.Balanced := by
  have hbooks : s₀.Books config.surplus :=
    (wp_of_ok hgenesis).mp (config.build_spec h.nodup h.ids h.fits key)
  rwa [funext (GenesisConfig.surplus_eq_zero_iff.mpr (Or.inl h.count))] at hbooks

/-- **Every unit is accounted for.** From a genesis whose endowments fit and are counted, every run
of the ledger posts a list of entries, those of each operation authorised in the state it was
called in, so that what an account has in a pocket and has paid is what it had and was paid, and
the issuance is what it was, what was issued and what was retired. -/
theorem statement_of_run {β : Build} {twox64 : List UInt8 → LockIdentifier}
    {config : GenesisConfig AccountId} {key : AccountId} {s₀ s : Store AccountId}
    {ops : List (Op AccountId)} (hcounted : config.Counted)
    (hgenesis : (config.build key : Prog β AccountId Unit) .empty = .ok () s₀)
    (hrun : run (nextLedger β twox64) ops s₀ = some s) :
    ∃ ess, List.Forall₂ (fun x es => ∀ e ∈ es, x.1.Authorises x.2.1 e)
        (trace (nextLedger β twox64) ops s₀) ess ∧
      s₀.book.Posts ess.flatten s.book ∧
      ∀ assetId,
        s.book.balance assetId + (ess.flatten.map fun e => e.debit assetId).sum =
          s₀.book.balance assetId + (ess.flatten.map fun e => e.credit assetId).sum ∧
        (s.totalIssuance.get assetId).toNat + (ess.flatten.map fun e => e.retired assetId).sum =
          (s₀.totalIssuance.get assetId).toNat +
            (ess.flatten.map fun e => e.issued assetId).sum := by
  obtain ⟨ess, hauths, hposts⟩ := keeps_book.posts_of_run (hcounted.balanced hgenesis) hrun
  exact ⟨ess, hauths, hposts, fun assetId => ⟨hposts.balance assetId, hposts.supply assetId⟩⟩

/-- The genesis of the example is counted. -/
theorem exampleConfig_counted : exampleConfig.genericAsset.Counted where
  nodup := by decide +kernel
  ids := by simp [exampleConfig]
  fits := by decide +kernel
  count := by decide +kernel

theorem statement_of_run_example :
    ∃ s ess, run (nextLedger .release Twox.twox64) [.extrinsic 9 .root (.create 100 []),
        .extrinsic 9 (.signed 9) (.transfer 5 6 60), .extrinsic 9 (.signed 9) (.burn 5 6 20),
        .reserve 5 6 10] exampleState.assets = some s ∧
      s.free 5 6 = 30 ∧ s.reserved 5 6 = 10 ∧ s.totalIssuance.get 5 = 80 ∧
      exampleState.assets.book.Posts ess s.book := by
  obtain ⟨s, hrun, hfree, hreserved, hissued⟩ := exists_of_any
    (p := fun s : Store ℕ => s.free 5 6 = 30 ∧ s.reserved 5 6 = 10 ∧ s.totalIssuance.get 5 = 80)
    (o := run (nextLedger .release Twox.twox64) [.extrinsic 9 .root (.create 100 []),
      .extrinsic 9 (.signed 9) (.transfer 5 6 60), .extrinsic 9 (.signed 9) (.burn 5 6 20),
      .reserve 5 6 10] exampleState.assets) (by decide +kernel)
  have hgenesis := MoneyPool.GenesisConfig.assets_of_build exampleConfig_build
  obtain ⟨ess, -, hposts, -⟩ := statement_of_run exampleConfig_counted hgenesis hrun
  exact ⟨s, ess.flatten, hrun, hfree, hreserved, hissued, hposts⟩

end GenericAsset

end MoneyPool
