import MoneyPool.Bridge.Credits

/-!
# How held deposits are released

Marking an account white takes its deposits out of the storage, credits them one after the other
and, where one of them cannot be credited, puts back what is left: that one and all behind it. So an
attempt that fails has credited a first part of the list and left the second one
(`MoneyPool.Bridge.State.ReleasesPart`), and attempts that go on until one succeeds credit the whole
list between them, every deposit once (`MoneyPool.Bridge.released_once`). Whatever else is called
between two attempts only puts more deposits behind those that wait
(`MoneyPool.Bridge.pendings_grow`).
-/

namespace MoneyPool

namespace Bridge

open Pallet Pallet.Exec

variable {AccountId : Type} [DecidableEq AccountId] {β : Build}

/-! ### What an attempt does -/

namespace State

variable (s : State AccountId) (account : AccountId)

/-- The deposits that wait for the mark of an account. -/
def pendings : List (Deposit AccountId) := s.bridge.pendingDepositList.get account

/-- The ledger after the amounts of some deposits have been minted to an account, each of them
once. -/
def mintedAll (deposits : List (Deposit AccountId)) : GenericAsset.Store AccountId :=
  deposits.foldl (fun m d => m.minted s.bridge.assetId account d.amount) s.assets

/-- **Exactly some deposits are minted** to an account: the ledger is the one after them, and the
account has got the sum of their amounts. -/
structure Mints (deposits : List (Deposit AccountId)) (t : State AccountId) : Prop where
  assets : t.assets = s.mintedAll account deposits
  free : (t.assets.free s.bridge.assetId account).toNat =
    (s.assets.free s.bridge.assetId account).toNat + exactSum (deposits.map Deposit.amount)

/-- **All that has waited is released**, and the account is white. -/
structure ReleasesAll (t : State AccountId) : Prop where
  minted : s.Mints account (s.pendings account) t
  empty : t.pendings account = []
  white : t.bridge.checkList account = some .white

/-- **A first part of what has waited is released**, and the rest still waits, in the same order. -/
structure ReleasesPart (first rest : List (Deposit AccountId)) (t : State AccountId) : Prop where
  split : s.pendings account = first ++ rest
  left : rest ≠ []
  minted : s.Mints account first t
  waiting : t.pendings account = rest
  unmarked : t.bridge.list = s.bridge.list

end State

variable {s t u : State AccountId} {account author : AccountId} {ps : List (Deposit AccountId)}

/-- Crediting deposits rewrites the history of transactions only, in the storage of the bridge. -/
theorem State.Clears.bridge_eq (h : s.Clears ps t) :
    ∃ m, t.bridge = { s.bridge with depositHistory := m } := by
  induction h with
  | nil s => exact ⟨s.bridge.depositHistory, rfl⟩
  | cons _ _ _ ih =>
    obtain ⟨m, hm⟩ := ih
    exact ⟨m, hm⟩

/-- It does not change what waits. -/
theorem State.Clears.pendings (h : s.Clears ps t) : t.pendings account = s.pendings account := by
  obtain ⟨m, hm⟩ := h.bridge_eq
  rw [State.pendings, hm]
  rfl

/-- **What is credited is minted**, each deposit once, if all of them belong to one account. -/
theorem State.Clears.mints (h : s.Clears ps t) (hown : ∀ d ∈ ps, d.accountId = account) :
    s.Mints account ps t := by
  induction h with
  | nil s => exact ⟨rfl, rfl⟩
  | @cons s t p ps txHash _ hcan _ ih =>
    obtain ⟨hfirst, hrest⟩ := List.forall_mem_cons.mp hown
    obtain ⟨hassets, hfree⟩ := ih hrest
    rw [hfirst] at hassets hfree hcan
    refine ⟨hassets, ?_⟩
    -- the first amount is added to what is free, and there is room for it
    have hone : ((s.credited account p.amount txHash).assets.free s.bridge.assetId account).toNat =
        (s.assets.free s.bridge.assetId account).toNat + p.amount.toNat := by
      change ((s.assets.minted _ _ _).free _ _).toNat = _
      rw [GenericAsset.Store.minted, GenericAsset.Store.free_setFree, if_pos ⟨rfl, rfl⟩]
      exact BitVec.toNat_add_of_lt hcan.balance
    have hsum : exactSum ((p :: ps).map Deposit.amount) =
        p.amount.toNat + exactSum (ps.map Deposit.amount) := rfl
    rw [hsum, ← Nat.add_assoc, ← hone]
    exact hfree

/-- **Marking an account white**, by somebody who may. -/
theorem markWhite_spec (hauth : s.bridge.hasAuth author .mark = true) :
    wp (markWhite (.signed author) account : Prog β AccountId Unit)
      (fun _ t =>
        ∃ u, (s.taken account).Clears (s.pendings account) u ∧ t = u.marked account .white)
      (fun _ t => ∃ first p ps txHash u, s.pendings account = first ++ p :: ps ∧
        (s.taken account).Clears first u ∧
        t = (u.seen p.accountId p.amount txHash).restored account (p :: ps)) True s := by
  simp only [markWhite, takePendings, markWithEvent, mark, depositEvent, wp_bind, wp_gets,
    wp_ensure, wp_ensureSigned, wp_modify, wp_pure]
  refine ⟨?_, fun hno => (hno author rfl).elim⟩
  rintro _ ⟨⟩
  refine ⟨fun _ => ?_, fun hno => absurd hauth hno⟩
  refine wp_mono (creditPendings_spec account _) (fun _ u hu => ⟨u, hu, rfl⟩) ?_ id
  rintro _ _ ⟨first, p, ps, txHash, u, hsplit, hclears, -, rfl⟩
  exact ⟨first, p, ps, txHash, u, hsplit, hclears, rfl⟩

/-- The deposits of an account that are out of the storage do not wait, and those of the others
do. -/
theorem pendings_taken (who : AccountId) :
    (s.taken who).pendings account = if account = who then [] else s.pendings account :=
  StorageMap.get_remove _ who account

/-- **Marking an account white**, where what waits for it belongs to it. -/
theorem markWhite_releases (hauth : s.bridge.hasAuth author .mark = true)
    (hown : ∀ d ∈ s.pendings account, d.accountId = account) :
    wp (markWhite (.signed author) account : Prog β AccountId Unit)
      (fun _ t => s.ReleasesAll account t)
      (fun _ t => ∃ first rest, s.ReleasesPart account first rest t) True s := by
  refine wp_mono (markWhite_spec hauth) (fun _ t => ?_) (fun _ t => ?_) id
  · rintro ⟨u, hclears, rfl⟩
    obtain ⟨hassets, hfree⟩ := hclears.mints hown
    refine ⟨⟨hassets, hfree⟩, ?_, ?_⟩
    · change u.pendings account = []
      rw [hclears.pendings, pendings_taken, if_pos rfl]
    · simp [State.marked, Store.checkList, StorageMap.containsKey_insert]
  · rintro ⟨first, p, ps, txHash, u, hsplit, hclears, rfl⟩
    obtain ⟨m, hm⟩ := hclears.bridge_eq
    obtain ⟨hassets, hfree⟩ :=
      hclears.mints fun d hd => hown d (hsplit ▸ List.mem_append_left _ hd)
    refine ⟨first, p :: ps, hsplit, List.cons_ne_nil _ _, ⟨hassets, hfree⟩, ?_, ?_⟩
    · change (u.bridge.pendingDepositList.insert account (p :: ps)).get account = _
      rw [StorageMap.get_insert, if_pos rfl]
    · change u.bridge.list = s.bridge.list
      rw [hm]
      rfl

/-- The call of somebody who may not mark accounts does nothing. -/
theorem markWhite_refused {origin : Origin AccountId}
    (hno : ¬∃ author, origin = .signed author ∧ s.bridge.hasAuth author .mark = true) :
    wp (markWhite origin account : Prog β AccountId Unit) (fun _ _ => False) (fun _ t => t = s)
      False s := by
  simp only [markWhite, wp_bind, wp_gets, wp_ensure, wp_ensureSigned]
  refine ⟨?_, fun _ => trivial⟩
  rintro author rfl
  exact ⟨fun hauth => absurd ⟨author, rfl, hauth⟩ hno, fun _ => trivial⟩

/-- Only somebody who may marks an account. -/
theorem markWhite_signed {origin : Origin AccountId}
    (h : (markWhite origin account : Prog β AccountId Unit) s = .ok () t) :
    ∃ author, origin = .signed author ∧ s.bridge.hasAuth author .mark = true := by
  by_contra hno
  exact (wp_of_ok h).mp (markWhite_refused hno)

/-- What an attempt that fails has minted, and that the rest waits in the same order. -/
theorem markWhite_err {origin : Origin AccountId} {e : DispatchError}
    (hown : ∀ d ∈ s.pendings account, d.accountId = account)
    (h : (markWhite origin account : Prog β AccountId Unit) s = .err e t) :
    ∃ done, s.pendings account = done ++ t.pendings account ∧ s.Mints account done t := by
  by_cases hauth : ∃ author, origin = .signed author ∧ s.bridge.hasAuth author .mark = true
  · obtain ⟨author, rfl, hauth⟩ := hauth
    obtain ⟨first, rest, hpart⟩ := (wp_of_err h).mp (markWhite_releases hauth hown)
    exact ⟨first, hpart.waiting ▸ hpart.split, hpart.minted⟩
  · obtain rfl := (wp_of_err h).mp (markWhite_refused hauth)
    exact ⟨[], rfl, rfl, rfl⟩

/-! ### What happens between two attempts -/

variable [Inhabited AccountId]

/-- The calls that take the deposits of an account out of the storage. -/
def Step.marks (account : AccountId) : Step AccountId → Prop
  | .bridge _ (.markWhite who) => who = account
  | .bridge _ (.markBlack who) => who = account
  | _ => False

/-- Every other call puts at most one deposit behind those that wait. -/
theorem Effect.pendings_grow {i : Step AccountId} (heff : Effect β s i t)
    (hother : ¬i.marks account) : ∃ held, t.pendings account = s.pendings account ++ held := by
  have hsame : t.pendings account = s.pendings account →
      ∃ held, t.pendings account = s.pendings account ++ held :=
    fun h => ⟨[], h.trans (List.append_nil _).symm⟩
  cases heff with
  | unchanged => exact hsame rfl
  | switched => exact hsame rfl
  | ledgerCall => exact hsame rfl
  | credited => exact hsame rfl
  | lost => exact hsame rfl
  | held author who amount txHash _ =>
    change ∃ held, (s.bridge.pendingDepositList.mutate who _).get account = _ ++ held
    rw [StorageMap.get_mutate]
    split
    · rename_i heq
      subst heq
      exact ⟨_, rfl⟩
    · exact ⟨[], (List.append_nil _).symm⟩
  | blackened author who txHashes _ =>
    obtain ⟨m, hm⟩ := foldl_unseen txHashes (s.taken who)
    refine hsame ?_
    rw [hm]
    exact (pendings_taken who).trans (if_neg (Ne.symm hother))
  | @whitened author who u hclears =>
    refine hsame ?_
    change u.pendings account = _
    rw [hclears.pendings, pendings_taken, if_neg (Ne.symm hother)]
  | @stuck author who first ps p txHash u _ hclears _ =>
    refine hsame ?_
    change (u.bridge.pendingDepositList.insert who (p :: ps)).get account = _
    rw [StorageMap.get_insert, if_neg (Ne.symm hother)]
    change u.pendings account = _
    rw [hclears.pendings, pendings_taken, if_neg (Ne.symm hother)]
  | withdrawn => exact hsame rfl
  | refunded => exact hsame rfl
  | finished => exact hsame rfl

/-- **Calls that do not mark an account** put deposits behind those that wait for its mark, and take
none. -/
theorem pendings_grow (h : Reach (next β) (fun _ i => ¬i.marks account) s t) :
    ∃ held, t.pendings account = s.pendings account ++ held := by
  refine h.invariant (I := fun t => ∃ held, t.pendings account = s.pendings account ++ held)
    ⟨[], (List.append_nil _).symm⟩ ?_
  rintro u i u' ⟨held, hu⟩ hother hnext
  obtain ⟨more, hu'⟩ := (next_effect hnext).pendings_grow hother
  exact ⟨held ++ more, by rw [hu', hu, List.append_assoc]⟩

/-! ### Attempts -/

/-- **Attempts to mark an account white** that fail but for the last one, with the states before and
after each and the deposits that came to wait meanwhile. Anything else may be called between
them. -/
inductive Attempts (β : Build) (account : AccountId) : State AccountId →
    List (State AccountId × State AccountId) → List (Deposit AccountId) → State AccountId → Prop
  /-- The attempt succeeds. -/
  | last {s t : State AccountId} (origin : Origin AccountId)
      (succeeds : (markWhite origin account : Prog β AccountId Unit) s = .ok () t) :
      Attempts β account s [(s, t)] [] t
  /-- The attempt fails, and there is another one later. -/
  | retry {s t u v : State AccountId} {calls : List (State AccountId × State AccountId)}
      {held more : List (Deposit AccountId)} (origin : Origin AccountId) {e : DispatchError}
      (fails : (markWhite origin account : Prog β AccountId Unit) s = .err e t)
      (between : Reach (next β) (fun _ i => ¬i.marks account) t u)
      (grown : u.pendings account = t.pendings account ++ held)
      (later : Attempts β account u calls more v) :
      Attempts β account s ((s, t) :: calls) (held ++ more) v

/-- What the attempts mint, one part each. -/
theorem Attempts.mints {s₀ : State AccountId} {config : GenesisConfig AccountId}
    {calls : List (State AccountId × State AccountId)} {held : List (Deposit AccountId)}
    (h : Attempts β account s calls held t) (hgenesis : config.build β = some s₀)
    (hreach : Reachable (next β) s₀ s) :
    ∃ dones : List (List (Deposit AccountId)), dones.flatten = s.pendings account ++ held ∧
      List.Forall₂ (fun call done => call.1.Mints account done call.2) calls dones ∧
      t.pendings account = [] ∧ t.bridge.checkList account = some .white := by
  have hown : ∀ {s : State AccountId}, Reachable (next β) s₀ s →
      ∀ d ∈ s.pendings account, d.accountId = account := by
    intro s hreach d hd
    obtain ⟨_, hw⟩ := (creditedOnce_of_reachable hgenesis hreach account).stored account d hd
    exact hw.account
  induction h with
  | @last s t origin hok =>
    obtain ⟨author, rfl, hauth⟩ := markWhite_signed hok
    have hall := (wp_of_ok hok).mp (markWhite_releases hauth (hown hreach))
    refine ⟨[s.pendings account], ?_, .cons hall.minted .nil, hall.empty, hall.white⟩
    rw [List.flatten_singleton, List.append_nil]
  | @retry s t u v calls held more origin e herr hbetween hgrown _ ih =>
    obtain ⟨done, hsplit, hmints⟩ := markWhite_err (hown hreach) herr
    have hnext : next β (.bridge origin (.markWhite account)) s = some t := by
      rw [next, Step.exec, dispatch, herr]
    obtain ⟨dones, hflat, hall, hend⟩ :=
      ih ((hreach.tail trivial hnext).trans (hbetween.mono fun _ _ _ => trivial))
    refine ⟨done :: dones, ?_, .cons hmints hall, hend⟩
    rw [List.flatten_cons, hflat, hgrown, hsplit]
    simp only [List.append_assoc]

/-- **Held deposits are released once.** In every state that is reached from genesis, whoever may
mark an account white either releases all that has waited for it and marks it, or is refused when a
first part is released and exactly the rest still waits. Calls that do not mark the account only
put more deposits behind. So attempts that fail, and one that succeeds in the end, mint between them
every deposit that has waited or came to wait, once and in the order of the list. -/
theorem released_once {s₀ : State AccountId} {config : GenesisConfig AccountId}
    (hgenesis : config.build β = some s₀) (hreach : Reachable (next β) s₀ s) (account : AccountId) :
    (∀ author, s.bridge.hasAuth author .mark = true →
      (∃ t, (markWhite (.signed author) account : Prog β AccountId Unit) s = .ok () t ∧
        s.ReleasesAll account t) ∨
      ∃ e t first rest,
        (markWhite (.signed author) account : Prog β AccountId Unit) s = .err e t ∧
        s.ReleasesPart account first rest t) ∧
    (∀ t, Reach (next β) (fun _ i => ¬i.marks account) s t →
      ∃ held, t.pendings account = s.pendings account ++ held) ∧
    ∀ calls held t, Attempts β account s calls held t →
      ∃ dones : List (List (Deposit AccountId)), dones.flatten = s.pendings account ++ held ∧
        List.Forall₂ (fun call done => call.1.Mints account done call.2) calls dones ∧
        t.pendings account = [] ∧ t.bridge.checkList account = some .white := by
  have honce := creditedOnce_of_reachable hgenesis hreach account
  refine ⟨fun author hauth => ?_, fun _ => pendings_grow,
    fun _ _ _ h => h.mints hgenesis hreach⟩
  have hown : ∀ d ∈ s.pendings account, d.accountId = account := by
    intro d hd
    obtain ⟨_, hw⟩ := honce.stored account d hd
    exact hw.account
  rcases cases_of_wp (markWhite_releases (β := β) hauth hown) with
    ⟨_, t, hx, hall⟩ | ⟨e, t, hx, first, rest, hpart⟩ | ⟨hpanic, -⟩
  · exact Or.inl ⟨t, hx, hall⟩
  · exact Or.inr ⟨e, t, first, rest, hx, hpart⟩
  · exact absurd hpanic (completes_iff_ne_panic.mp (mark_completes honce (.signed author)).1)

/-- Two deposits wait, and one call releases both. -/
theorem released_once_example :
    ∃ s t, run (next .release) [.bridge (.signed 2) (.deposit 5 30 1),
        .bridge (.signed 2) (.deposit 5 25 2)] exampleState = some s ∧
      (s.pendings 5).map Deposit.amount = [30, 25] ∧
      (markWhite (.signed 2) 5 : Prog .release ℕ Unit) s = .ok () t ∧ s.ReleasesAll 5 t ∧
      ∃ dones : List (List (Deposit ℕ)), dones.flatten = s.pendings 5 := by
  obtain ⟨s, hrun, hamounts, hauth, hok⟩ := exists_of_any
    (p := fun s : State ℕ => (s.pendings 5).map Deposit.amount = [30, 25] ∧
      s.bridge.hasAuth 2 .mark = true ∧
      ((markWhite (.signed 2) 5 : Prog .release ℕ Unit) s).okState.isSome = true)
    (o := run (next .release) [.bridge (.signed 2) (.deposit 5 30 1),
        .bridge (.signed 2) (.deposit 5 25 2)] exampleState)
    (by decide +kernel)
  obtain ⟨t, ht⟩ := Option.isSome_iff_exists.mp hok
  have hx := Outcome.eq_ok_of_okState ht
  obtain ⟨hrelease, -, hattempts⟩ := released_once exampleConfig_build (reachable_of_run hrun) 5
  obtain ⟨dones, hflat, -⟩ := hattempts _ _ _ (.last (.signed 2) hx)
  refine ⟨s, t, hrun, hamounts, hx, ?_, dones, hflat.trans (List.append_nil _)⟩
  rcases hrelease 2 hauth with ⟨t', hx', hall⟩ | ⟨_, _, _, _, hx', -⟩
  · cases hx.symm.trans hx'
    exact hall
  · exact nomatch hx.symm.trans hx'

end Bridge

end MoneyPool
