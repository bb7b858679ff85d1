import MoneyPool.Bridge.Release
import MoneyPool.Bridge.Vault

/-!
# The events of the bridge tell its state

Nobody reads the storage of the bridge to serve it: what has to be paid out in bitcoin, and which
deposits wait for a mark, is known from the events. This is enough. A reader who keeps a small
picture of each account (`MoneyPool.Bridge.Picture`) and changes it with every event has what the
storage has (`MoneyPool.Bridge.log_tells_state`), although calls that fail leave writes behind and a
mark may go through in parts.

The withdrawals of an account are settled once each: what it has asked for is what is still open,
what was refunded and what was finished (`MoneyPool.Bridge.withdrawals_settle_once`). What was
finished stays in the vault, as the pallet never burns.
-/

namespace MoneyPool

namespace Bridge

open Pallet Pallet.Exec

variable {AccountId : Type} [DecidableEq AccountId] {β : Build}

/-! ### Reading events -/

/-- **What a reader of the events knows of an account.** -/
structure Picture where
  /-- The transactions that wait for its mark, with their amounts. -/
  waiting : List (TxHash × Balance)
  mark : Option BlackOrWhite
  /-- What it has asked for. -/
  asked : List Balance
  deriving DecidableEq

namespace Picture

/-- Nothing is known before the first event. -/
def blank : Picture := { waiting := [], mark := none, asked := [] }

/-- What an event says of an account. -/
def read (who : AccountId) (v : Picture) : Event AccountId → Picture
  | .accountMarked account bow =>
    if account = who then
      { v with mark := some bow, waiting := if bow = .black then [] else v.waiting }
    else v
  | .deposit account _ txHash =>
    if account = who then { v with waiting := v.waiting.eraseP fun e => e.1 = txHash } else v
  | .pending account amount txHash =>
    if account = who then { v with waiting := v.waiting ++ [(txHash, amount)] } else v
  | .pendingWithdraw account amount =>
    if account = who then { v with asked := v.asked ++ [amount] } else v
  | .refund account amount =>
    if account = who then { v with asked := v.asked.erase amount } else v
  | .withdraw account amount =>
    if account = who then { v with asked := v.asked.erase amount } else v

/-- **What all events say** of an account. -/
def ofEvents (who : AccountId) (events : List (Event AccountId)) : Picture :=
  events.foldl (read who) blank

end Picture

/-- **The storage shows a picture** of an account, where some deposits wait for its mark. -/
structure State.Shows (s : State AccountId) (who : AccountId) (pendings : List (Deposit AccountId))
    (v : Picture) : Prop where
  waiting : pendings = v.waiting.map fun e => State.waiting who e.2 e.1
  mark : s.bridge.checkList who = v.mark
  asked : s.bridge.pendingWithdraws.get who = v.asked

section Shows

variable {s t : State AccountId} {who account : AccountId} {amount : Balance} {txHash : TxHash}
  {ps rest : List (Deposit AccountId)} {v : Picture}

omit [DecidableEq AccountId] in
/-- Only the marks and what was asked for matter. -/
theorem State.Shows.of_same [DecidableEq AccountId] (h : s.Shows who ps v)
    (hlist : t.bridge.list = s.bridge.list)
    (hasked : t.bridge.pendingWithdraws = s.bridge.pendingWithdraws) : t.Shows who ps v where
  waiting := h.waiting
  mark := by
    rw [Store.checkList, hlist]
    exact h.mark
  asked := by
    rw [hasked]
    exact h.asked

/-- The mark of an account, after one is marked. -/
theorem checkList_marked (bow : BlackOrWhite) :
    (s.marked account bow).bridge.checkList who =
      if who = account then some bow else s.bridge.checkList who := by
  have hkey : ∀ m : StorageMap AccountId BlackOrWhite,
      (if m.containsKey who = true then some (m.get who) else none) = m.get? who := by
    intro m
    rw [StorageMap.containsKey, StorageMap.get]
    cases m.get? who <;> rfl
  rw [Store.checkList, Store.checkList, hkey, hkey]
  exact StorageMap.get?_insert ..

/-- A transaction that waits nowhere is not among those that a picture has. -/
theorem State.Shows.eraseP_of_not_waiting (h : s.Shows who ps v)
    (hnew : ∀ d ∈ ps, d.txHash ≠ some txHash) :
    (v.waiting.eraseP fun e => e.1 = txHash) = v.waiting := by
  refine List.eraseP_of_forall_not fun e he heq => ?_
  refine hnew (State.waiting who e.2 e.1) ?_ (congrArg some (of_decide_eq_true heq))
  rw [h.waiting]
  exact List.mem_map_of_mem he

/-- **A credit**, of a transaction that does not wait. -/
theorem State.Shows.credited (h : s.Shows who ps v) (hnew : ∀ d ∈ ps, d.txHash ≠ some txHash) :
    (s.credited account amount txHash).Shows who ps
      (Picture.read who v (.deposit account amount txHash)) := by
  have hsame : Picture.read who v (.deposit account amount txHash) = v := by
    rw [Picture.read, h.eraseP_of_not_waiting hnew]
    exact ite_self v
  rw [hsame]
  exact h.of_same rfl rfl

/-- A mark. What has waited for it is out of the storage. -/
theorem State.Shows.marked (h : s.Shows who ps v) {ps' : List (Deposit AccountId)}
    (bow : BlackOrWhite) (hkept : account ≠ who → ps' = ps)
    (hgone : account = who → ps' = [] ∧ (bow = .black ∨ ps = [])) :
    (s.marked account bow).Shows who ps' (Picture.read who v (.accountMarked account bow)) := by
  have hmark : (s.marked account bow).bridge.checkList who =
      if who = account then some bow else s.bridge.checkList who := checkList_marked bow
  rcases eq_or_ne account who with heq | hne
  · obtain ⟨rfl, hbow⟩ := hgone heq
    rw [if_pos heq.symm] at hmark
    rw [Picture.read, if_pos heq]
    refine ⟨?_, hmark, h.asked⟩
    rcases hbow with hblack | hnil
    · rw [if_pos hblack]
      rfl
    · have hwaiting : v.waiting = [] := List.map_eq_nil_iff.mp (h.waiting.symm.trans hnil)
      rw [hwaiting, ite_self]
      rfl
  · rw [if_neg (Ne.symm hne)] at hmark
    rw [Picture.read, if_neg hne, hkept hne]
    exact ⟨h.waiting, hmark.trans h.mark, h.asked⟩

/-! ### Credits of what has waited -/

/-- The events of some credits. -/
def creditsOf (deposits : List (Deposit AccountId)) : List (Event AccountId) :=
  deposits.filterMap fun d => d.txHash.map fun txHash => .deposit d.accountId d.amount txHash

omit [DecidableEq AccountId] in
theorem creditsOf_cons {p : Deposit AccountId} (htx : p.txHash = some txHash) :
    creditsOf (p :: ps) = .deposit p.accountId p.amount txHash :: creditsOf ps := by
  rw [creditsOf, List.filterMap_cons_some (by rw [htx]; rfl)]
  rfl

/-- **Crediting what has waited** is in the events. -/
theorem State.Clears.events (h : s.Clears ps t) : t.events = s.events ++ creditsOf ps := by
  induction h with
  | nil s => exact (List.append_nil _).symm
  | cons htx _ _ ih =>
    rw [ih, creditsOf_cons htx]
    exact List.append_assoc ..

/-- **Crediting a first part of what has waited** leaves the rest in the picture. -/
theorem State.Shows.clears (h : s.Shows who (ps ++ rest) v) (hclears : s.Clears ps t) :
    t.Shows who rest ((creditsOf ps).foldl (Picture.read who) v) := by
  induction hclears generalizing v with
  | nil => exact h
  | @cons s t p ps txHash htx _ _ ih =>
    -- the deposit is the first one of the picture
    obtain ⟨e, es, hes, rfl, hrest⟩ := List.map_eq_cons_iff.mp h.waiting.symm
    obtain rfl := Option.some.inj htx
    have herase : ((e :: es).eraseP fun e' => e'.1 = e.1) = es :=
      List.eraseP_cons_of_pos (decide_eq_true rfl)
    have hread : Picture.read who v (.deposit who e.2 e.1) = { v with waiting := es } := by
      rw [Picture.read, if_pos rfl, hes, herase]
    rw [creditsOf_cons rfl]
    show t.Shows who rest ((creditsOf ps).foldl _ (Picture.read who v (.deposit who e.2 e.1)))
    rw [hread]
    exact ih ⟨hrest.symm, h.mark, h.asked⟩

/-- Crediting deposits of other accounts does not change the picture. -/
theorem State.Shows.clears_other {qs : List (Deposit AccountId)} (h : s.Shows who qs v)
    (hclears : s.Clears ps t) (hother : ∀ d ∈ ps, d.accountId ≠ who) :
    t.Shows who qs ((creditsOf ps).foldl (Picture.read who) v) := by
  induction hclears with
  | nil => exact h
  | @cons s t p ps txHash htx _ _ ih =>
    obtain ⟨hfirst, hmore⟩ := List.forall_mem_cons.mp hother
    have hread : Picture.read who v (.deposit p.accountId p.amount txHash) = v := if_neg hfirst
    rw [creditsOf_cons htx]
    show t.Shows who qs
      ((creditsOf ps).foldl _ (Picture.read who v (.deposit p.accountId p.amount txHash)))
    rw [hread]
    exact ih (h.of_same rfl rfl) hmore

/-! ### Other changes -/

/-- A deposit is held. -/
theorem State.Shows.held (h : s.Shows who (s.pendings who) v) (account : AccountId)
    (amount : Balance) (txHash : TxHash) :
    (s.held account amount txHash).Shows who ((s.held account amount txHash).pendings who)
      (Picture.read who v (.pending account amount txHash)) := by
  have hpendings : (s.held account amount txHash).pendings who = if who = account then
      s.pendings account ++ [State.waiting account amount txHash] else s.pendings who :=
    StorageMap.get_mutate ..
  rw [hpendings]
  rcases eq_or_ne account who with rfl | hne
  · rw [if_pos rfl, Picture.read, if_pos rfl]
    refine ⟨?_, h.mark, h.asked⟩
    rw [List.map_append, ← h.waiting]
    rfl
  · rw [if_neg (Ne.symm hne), Picture.read, if_neg hne]
    exact ⟨h.waiting, h.mark, h.asked⟩

/-- An amount is asked for. -/
theorem State.Shows.withdrawn (h : s.Shows who (s.pendings who) v) (account : AccountId)
    (amount : Balance) : (s.withdrawn account amount).Shows who (s.pendings who)
      (Picture.read who v (.pendingWithdraw account amount)) := by
  have hasked : (s.asked account amount).get who = if who = account then
      s.bridge.pendingWithdraws.get account ++ [amount] else s.bridge.pendingWithdraws.get who :=
    StorageMap.get_insert ..
  rcases eq_or_ne account who with rfl | hne
  · rw [if_pos rfl, h.asked] at hasked
    rw [Picture.read, if_pos rfl]
    exact ⟨h.waiting, h.mark, hasked⟩
  · rw [if_neg (Ne.symm hne)] at hasked
    rw [Picture.read, if_neg hne]
    exact ⟨h.waiting, h.mark, hasked.trans h.asked⟩

/-- An amount is settled, one way or the other. -/
theorem State.Shows.settled (h : s.Shows who (s.pendings who) v)
    (hasked : amount ∈ s.bridge.pendingWithdraws.get account)
    (hlist : t.bridge.list = s.bridge.list)
    (hsettled : t.bridge.pendingWithdraws = s.settled account amount) :
    t.Shows who (s.pendings who)
      (if account = who then { v with asked := v.asked.erase amount } else v) := by
  have hget := get_settled hasked who
  rw [← hsettled] at hget
  have hmark : t.bridge.checkList who = s.bridge.checkList who := by
    rw [Store.checkList, hlist, Store.checkList]
  rcases eq_or_ne account who with rfl | hne
  · rw [if_pos rfl, h.asked] at hget
    rw [if_pos rfl]
    exact ⟨h.waiting, hmark.trans h.mark, hget⟩
  · rw [if_neg (Ne.symm hne)] at hget
    rw [if_neg hne]
    exact ⟨h.waiting, hmark.trans h.mark, hget.trans h.asked⟩

end Shows

/-! ### Steps -/

section Steps

variable [Inhabited AccountId] {s s' t : State AccountId} {i : Step AccountId}
  {who account : AccountId} {v : Picture} {before rest : List (Deposit AccountId)}

omit [Inhabited AccountId] in
/-- **Crediting a first part of what waits for an account**, with its deposits out of the
storage. -/
theorem State.Shows.released (honce : s.CreditedOnce account [])
    (h : s.Shows who (s.pendings who) v) (hsplit : s.pendings account = before ++ rest)
    (hclears : (s.taken account).Clears before t) :
    t.Shows who (if who = account then rest else s.pendings who)
      ((creditsOf before).foldl (Picture.read who) v) := by
  have htaken : (s.taken account).Shows who (s.pendings who) v := h.of_same rfl rfl
  rcases eq_or_ne account who with rfl | hne
  · rw [if_pos rfl]
    rw [hsplit] at htaken
    exact htaken.clears hclears
  · rw [if_neg (Ne.symm hne)]
    refine htaken.clears_other hclears fun d hd heq => hne ?_
    have hmem : d ∈ s.pendings account := hsplit ▸ List.mem_append_left _ hd
    obtain ⟨_, hw⟩ := honce.stored account d hmem
    exact hw.account.symm.trans heq

/-- **The picture follows every step**: its events lead from one picture to the next. -/
theorem Effect.shows (heff : Effect β s i s') (honce : ∀ account, s.CreditedOnce account [])
    (h : s.Shows who (s.pendings who) v) : ∃ new, s'.events = s.events ++ new ∧
      s'.Shows who (s'.pendings who) (new.foldl (Picture.read who) v) := by
  have hquiet : ∀ {t : State AccountId}, t.events = s.events →
      t.Shows who (t.pendings who) v → ∃ new, t.events = s.events ++ new ∧
        t.Shows who (t.pendings who) (new.foldl (Picture.read who) v) :=
    fun hevents ht => ⟨[], hevents.trans (List.append_nil _).symm, ht⟩
  cases heff with
  | unchanged => exact hquiet rfl h
  | switched => exact hquiet rfl (h.of_same rfl rfl)
  | ledgerCall => exact hquiet rfl (h.of_same rfl rfl)
  | credited author account amount txHash hfresh =>
    have hzero := ((honce who).fresh hfresh).2
    exact ⟨_, rfl, h.credited fun d hd => ne_of_pendingCount hzero hd⟩
  | lost => exact hquiet rfl (h.of_same rfl rfl)
  | held author account amount txHash => exact ⟨_, rfl, h.held account amount txHash⟩
  | blackened author account txHashes =>
    obtain ⟨m, hm⟩ := foldl_unseen txHashes (s.taken account)
    rw [hm]
    refine ⟨_, rfl, ?_⟩
    have htaken : ((s.taken account).withBridge fun t => { t with depositHistory := m }).Shows who
        (s.pendings who) v := h.of_same rfl rfl
    refine htaken.marked .black (fun hne => ?_) fun heq => ⟨?_, Or.inl rfl⟩
    · exact (pendings_taken account).trans (if_neg (Ne.symm hne))
    · exact (pendings_taken account).trans (if_pos heq.symm)
  | @whitened author account t hclears =>
    refine ⟨creditsOf (s.pendings account) ++ [Event.accountMarked account .white], ?_, ?_⟩
    · rw [← List.append_assoc]
      exact congrArg (· ++ [Event.accountMarked account .white]) hclears.events
    · have hreleased := h.released (honce account) (List.append_nil _).symm hclears
      have hpendings : t.pendings who = if who = account then [] else s.pendings who :=
        hclears.pendings.trans (pendings_taken account)
      rw [← hpendings] at hreleased
      rw [List.foldl_append]
      refine hreleased.marked .white (fun _ => rfl) fun heq => ?_
      rw [if_pos heq.symm] at hpendings
      exact ⟨hpendings, Or.inr hpendings⟩
  | @stuck author account before ps p txHash t hsplit hclears =>
    refine ⟨creditsOf before, hclears.events, ?_⟩
    have hpendings : ((t.seen p.accountId p.amount txHash).restored account (p :: ps)).pendings
        who = if who = account then p :: ps else s.pendings who := by
      rw [State.pendings, State.restored, StorageMap.get_insert]
      rcases eq_or_ne who account with heq | hne
      · rw [if_pos heq, if_pos heq]
      · rw [if_neg hne, if_neg hne]
        exact hclears.pendings.trans ((pendings_taken account).trans (if_neg hne))
    rw [hpendings]
    exact (h.released (honce account) hsplit hclears).of_same rfl rfl
  | withdrawn account amount => exact ⟨_, rfl, h.withdrawn account amount⟩
  | refunded author account amount hasked => exact ⟨_, rfl, h.settled hasked rfl rfl⟩
  | finished author account amount hasked => exact ⟨_, rfl, h.settled hasked rfl rfl⟩

end Steps

/-! ### The picture is the state -/

section Runs

variable [Inhabited AccountId] {s s₀ : State AccountId} {config : GenesisConfig AccountId}

/-- Nothing has happened at genesis. -/
theorem GenesisConfig.build_events (h : config.build β = some s₀) :
    s₀.events = [] ∧ s₀.bridge = config.store := by
  unfold GenesisConfig.build at h
  split at h
  · cases h
    exact ⟨rfl, rfl⟩
  · cases h

/-- **The events tell the state.** In every state that is reached from genesis, whatever was called
and by whomever, a reader who has kept a picture of an account with every event knows exactly which
deposits wait for its mark, in their order, how it is marked and what it has asked for. -/
theorem log_tells_state (hgenesis : config.build β = some s₀)
    (hreach : Reachable (next β) s₀ s) (who : AccountId) :
    s.Shows who (s.pendings who) (Picture.ofEvents who s.events) := by
  have hstart : (∀ account, s₀.CreditedOnce account []) ∧
      s₀.Shows who (s₀.pendings who) (Picture.ofEvents who s₀.events) := by
    obtain ⟨hevents, hbridge⟩ := GenesisConfig.build_events hgenesis
    refine ⟨creditedOnce_of_reachable hgenesis .refl, ?_, ?_, ?_⟩
    · rw [State.pendings, hbridge, hevents]
      rfl
    · rw [hbridge, hevents]
      rfl
    · rw [hbridge, hevents]
      rfl
  refine (hreach.invariant (I := fun s => (∀ account, s.CreditedOnce account []) ∧
    s.Shows who (s.pendings who) (Picture.ofEvents who s.events)) hstart ?_).2
  rintro t i t' ⟨honce, hshows⟩ - hnext
  have heff := next_effect hnext
  obtain ⟨new, hevents, hshows'⟩ := heff.shows honce hshows
  refine ⟨heff.creditedOnce honce, ?_⟩
  rw [Picture.ofEvents, hevents, List.foldl_append]
  exact hshows'

end Runs

/-- Two deposits are held, and one of them is released before the ledger refuses the other. -/
theorem log_tells_state_example :
    ∃ s, run (next .release) [.bridge (.signed 2) (.deposit 5 30 1),
        .bridge (.signed 2) (.deposit 5 (2 ^ 128 - 1) 2), .bridge (.signed 2) (.markWhite 5)]
        exampleState = some s ∧
      Picture.ofEvents 5 s.events =
        { waiting := [(2, 2 ^ 128 - 1)], mark := none, asked := [] } ∧
      s.Shows 5 (s.pendings 5) (Picture.ofEvents 5 s.events) := by
  obtain ⟨s, hrun, hpicture⟩ := exists_of_any
    (p := fun s : State ℕ => Picture.ofEvents 5 s.events =
      { waiting := [(2, 2 ^ 128 - 1)], mark := none, asked := [] })
    (o := run (next .release) [.bridge (.signed 2) (.deposit 5 30 1),
        .bridge (.signed 2) (.deposit 5 (2 ^ 128 - 1) 2), .bridge (.signed 2) (.markWhite 5)]
        exampleState) (by decide +kernel)
  exact ⟨s, hrun, hpicture, log_tells_state exampleConfig_build (reachable_of_run hrun) 5⟩

end Bridge

end MoneyPool
