import MoneyPool.Effect
import MoneyPool.NewOracle.Reports

/-!
# Every report counts once

Between two aggregating blocks reports come in as unsigned calls, in any number and order and
mixed with everything else the chain does. What is stacked for a token is, at any time, the
list of the reports of it since the last aggregation
(`MoneyPool.NewOracle.Store.Stacked`), so that no list is ever empty and the next aggregation
takes the mean of exactly those (`MoneyPool.reports_count_once`).
-/

namespace MoneyPool

open Pallet Pallet.Exec NewOracle

variable {AccountId : Type}

/-! ### The reports of a run -/

/-- What a step reports: a token and its price. -/
def Step.report : Step AccountId → Option (StrBytes × PriceInUSDT)
  | .extrinsic .none (.newOracle (.stackPriceUnsigned _ token price)) => some (token, price)
  | _ => none

/-- The end of an aggregating block. -/
def Step.aggregates : Step AccountId → Bool
  | .onFinalize height => height % aggregateInterval = 0
  | _ => false

/-- The reports since the last aggregation, after one more step. -/
def Step.pending (reports : List (StrBytes × PriceInUSDT)) (i : Step AccountId) :
    List (StrBytes × PriceInUSDT) :=
  if i.aggregates = true then [] else reports ++ i.report.toList

/-- **The reports since the last aggregation** of a run. -/
def pending (steps : List (Step AccountId)) : List (StrBytes × PriceInUSDT) :=
  steps.foldl Step.pending []

/-- The prices that some reports give a token, in their order. -/
def reportsOf (token : StrBytes) (reports : List (StrBytes × PriceInUSDT)) : List PriceInUSDT :=
  (reports.filter fun r => r.1 = token).map Prod.snd

theorem reportsOf_append (token : StrBytes) (reports reports' : List (StrBytes × PriceInUSDT)) :
    reportsOf token (reports ++ reports') =
      reportsOf token reports ++ reportsOf token reports' := by
  rw [reportsOf, List.filter_append, List.map_append]
  rfl

/-- The reports of a token in another order are its prices in another order. -/
theorem reportsOf_perm {reports reports' : List (StrBytes × PriceInUSDT)}
    (h : reports.Perm reports') (token : StrBytes) :
    (reportsOf token reports).Perm (reportsOf token reports') :=
  (h.filter _).map _

/-- A token that has too many reports has one. -/
theorem countable_iff {reports : List (StrBytes × PriceInUSDT)} {n : ℕ} (hn : 0 < n) :
    (∀ r ∈ reports, (reportsOf r.1 reports).length < n) ↔
      ∀ token, (reportsOf token reports).length < n := by
  refine ⟨fun h token => ?_, fun h r _ => h r.1⟩
  rcases hprices : reportsOf token reports with _ | ⟨price, prices⟩
  · exact hn
  · have hmem : price ∈ reportsOf token reports := hprices ▸ List.mem_cons_self ..
    obtain ⟨r, hr, -⟩ := List.mem_map.mp hmem
    obtain ⟨hr, htoken⟩ := List.mem_filter.mp hr
    rw [← hprices, ← of_decide_eq_true htoken]
    exact h r hr

/-- **What is stacked are the given reports**, and there is a key for a token only if there
is one. -/
def NewOracle.Store.Stacked (t : NewOracle.Store) (reports : List (StrBytes × PriceInUSDT)) :
    Prop :=
  ∀ token, t.priceCandidates.get? token =
    if reportsOf token reports = [] then none else some (reportsOf token reports)

namespace NewOracle.Store.Stacked

variable {t : NewOracle.Store} {reports : List (StrBytes × PriceInUSDT)}

theorem get (h : t.Stacked reports) (token : StrBytes) :
    t.priceCandidates.get token = reportsOf token reports := by
  rw [StorageMap.get, h token]
  split
  · rename_i hnil
    rw [hnil]
    rfl
  · rfl

theorem noneEmpty (h : t.Stacked reports) : t.NoneEmpty := by
  intro token heq
  rw [h token] at heq
  split at heq
  · cases heq
  · rename_i hne
    exact hne (Option.some.inj heq)

/-- One more report. -/
theorem report (h : t.Stacked reports) (token : StrBytes) (price : PriceInUSDT) :
    NewOracle.Store.Stacked
      { t with priceCandidates := t.priceCandidates.mutate token fun v => v ++ [price] }
      (reports ++ [(token, price)]) := by
  intro token'
  rw [StorageMap.get?_mutate, h.get, reportsOf_append]
  rcases eq_or_ne token' token with rfl | hne
  · have hone : reportsOf token' [(token', price)] = [price] := by simp [reportsOf]
    rw [if_pos rfl, hone, if_neg (by simp)]
  · have hnone : reportsOf token' [(token, price)] = [] := by simp [reportsOf, Ne.symm hne]
    rw [if_neg hne, hnone, List.append_nil, h token']

end NewOracle.Store.Stacked

/-! ### One step -/

theorem Step.pending_of_none {i : Step AccountId} (hreport : i.report = none)
    (hagg : i.aggregates = false) (reports : List (StrBytes × PriceInUSDT)) :
    Step.pending reports i = reports := by
  rw [Step.pending, if_neg (by simp [hagg]), hreport]
  exact List.append_nil _

theorem Step.report_of_ne {origin : Origin AccountId} (h : origin ≠ .none)
    (call : MoneyPool.Call AccountId) : Step.report (.extrinsic origin call) = none := by
  cases origin with
  | none => exact (h rfl).elim
  | root => rfl
  | signed who => rfl

/-- The given reports are stacked, and the prices are what they were. -/
structure NewOracle.Store.Reported (t t' : NewOracle.Store)
    (reports : List (StrBytes × PriceInUSDT)) : Prop where
  stacked : t'.Stacked reports
  currentPrice : t'.currentPrice = t.currentPrice

/-- **The calls of the oracle** stack what they report and leave the prices alone. -/
theorem NewOracle.dispatch_reported {β : Build} {t : NewOracle.Store}
    {reports : List (StrBytes × PriceInUSDT)} (h : t.Stacked reports) (origin : Origin AccountId)
    (call : NewOracle.Call) :
    wp (NewOracle.dispatch origin call : NewOracle.Prog β Unit)
      (fun _ t' => t.Reported t' (Step.pending reports (.extrinsic origin (.newOracle call))))
      (fun _ t' => t.Reported t' (Step.pending reports (.extrinsic origin (.newOracle call))))
      False t := by
  have hsame : t.Reported t reports := ⟨h, rfl⟩
  cases call with
  | addSource token sourceName sourceUrl jsonPath =>
    rw [Step.pending_of_none (by cases origin <;> rfl) rfl]
    simp only [NewOracle.dispatch, addSource, wp_bind, wp_ensureRoot, wp_gets, wp_ite, wp_modify]
    exact ⟨fun _ => ⟨fun _ => ⟨h, rfl⟩, fun _ => ⟨h, rfl⟩⟩, fun _ => hsame⟩
  | stackPriceUnsigned blockNumber token price =>
    simp only [NewOracle.dispatch, stackPriceUnsigned, stackPrice, wp_bind, wp_ensureNone,
      wp_modify]
    refine ⟨?_, fun hne => ?_⟩
    · rintro rfl
      exact ⟨h.report token price, rfl⟩
    · rw [Step.pending_of_none (Step.report_of_ne hne _) rfl]
      exact hsame
  | stackPriceSigned blockNumber token price =>
    rw [Step.pending_of_none (by cases origin <;> rfl) rfl]
    simp only [NewOracle.dispatch, stackPriceSigned, wp_bind, wp_ensureSigned, wp_pure]
    exact ⟨fun _ _ => hsame, fun _ => hsame⟩

section Steps

variable [DecidableEq AccountId] [Inhabited AccountId] {i : Step AccountId}
  {s s' : RuntimeState AccountId} {reports : List (StrBytes × PriceInUSDT)}
  {height : BlockNumber}

/-- A step of a hook leaves the oracle alone. -/
theorem RuntimeState.HookStep.oracle (h : s.HookStep s') : s'.oracle = s.oracle := by
  cases h <;> rfl

omit [Inhabited AccountId] in
/-- A redeem leaves the oracle alone. -/
theorem RuntimeState.Redeemed.oracle {who : AccountId} {assetId : AssetId} {amount : Balance}
    (h : s.Redeemed who assetId amount s') : s'.oracle = s.oracle := by
  have hpaid : (s.paidOut who).oracle = s.oracle := by
    unfold RuntimeState.paidOut
    split <;> rfl
  cases h with
  | restaked => exact hpaid
  | kept => exact hpaid

/-- **A step outside the oracle** leaves it alone. -/
theorem Effect.oracle {ok : Bool} (h : Effect s i ok s')
    (hcall : ∀ origin call, i ≠ .extrinsic origin (.newOracle call))
    (hfinal : ∀ height, i ≠ .onFinalize height) : s'.oracle = s.oracle := by
  cases h with
  | oracleCall origin call => exact (hcall origin call rfl).elim
  | aggregated height => exact (hfinal height rfl).elim
  | redeemed who assetId amount _ _ _ hred => exact hred.oracle
  | hook height hsteps =>
    clear hcall hfinal
    induction hsteps with
    | refl => rfl
    | tail _ hstep ih => exact hstep.oracle.trans ih
  | _ => rfl

omit [DecidableEq AccountId] [Inhabited AccountId] in
/-- The prices of every token can be averaged exactly if no token has more reports than a
`usize` counts. -/
theorem fits_iff {t : NewOracle.Store} (h : t.Stacked reports) :
    (∀ k ∈ t.priceCandidates.keys, t.Fits .release k) ↔
      ∀ r ∈ reports, (reportsOf r.1 reports).length < 2 ^ 64 := by
  constructor
  · intro hfits r hr
    have hne : t.priceCandidates.get r.1 ≠ [] := by
      have hmem : r.2 ∈ reportsOf r.1 reports :=
        List.mem_map_of_mem (f := Prod.snd) (List.mem_filter.mpr ⟨hr, decide_eq_true rfl⟩)
      rw [h.get]
      exact List.ne_nil_of_mem hmem
    have hlt := (hfits r.1 (h.noneEmpty.mem_keys_iff.mpr hne)).2
    rwa [h.get] at hlt
  · intro hlt k hk
    refine ⟨fun hchecked => absurd hchecked Bool.false_ne_true, ?_⟩
    have hne := h.noneEmpty.mem_keys_iff.mp hk
    rw [h.get] at hne ⊢
    obtain ⟨price, hprice⟩ := List.exists_mem_of_ne_nil _ hne
    obtain ⟨r, hr, -⟩ := List.mem_map.mp hprice
    obtain ⟨hmem, htoken⟩ := List.mem_filter.mp hr
    exact of_decide_eq_true htoken ▸ hlt r hmem

/-- **The end of an aggregating block.** -/
theorem next_onFinalize (hheight : height % aggregateInterval = 0)
    (h : s.oracle.Stacked reports) :
    next (.onFinalize height) s =
      if ∀ r ∈ reports, (reportsOf r.1 reports).length < 2 ^ 64 then
        some { s with oracle := s.oracle.finalized height } else none := by
  have hadd : Build.release.sums = true → height.toNat + aggregateInterval.toNat < 2 ^ 32 :=
    fun hchecked => nomatch hchecked
  split
  · rename_i hfits
    have hok : (Step.exec (.onFinalize height) : Prog .release AccountId Unit) s =
        .ok () { s with oracle := s.oracle.finalized height } := by
      refine eq_ok_of_wp ?_
      rw [Step.exec, wp_zoom, wp_onFinalize hheight h.noneEmpty]
      exact ⟨fun hno => hno ⟨(fits_iff h).mpr hfits, hadd⟩, fun _ => rfl⟩
    rw [next, hok]
  · rename_i hno
    have hpanic : (Step.exec (.onFinalize height) : Prog .release AccountId Unit) s = .panic := by
      refine eq_panic_of_wp ?_
      rw [Step.exec, wp_zoom, wp_onFinalize hheight h.noneEmpty]
      exact ⟨fun _ => trivial, fun hall => hno ((fits_iff h).mp hall.1)⟩
    rw [next, hpanic]
    rfl

/-- Where the end of an aggregating block leads. -/
theorem finalized_of_next (hheight : height % aggregateInterval = 0)
    (h : s.oracle.Stacked reports) (hnext : next (.onFinalize height) s = some s') :
    s' = { s with oracle := s.oracle.finalized height } := by
  rw [next_onFinalize hheight h] at hnext
  split at hnext
  · exact (Option.some.inj hnext).symm
  · cases hnext

omit [DecidableEq AccountId] [Inhabited AccountId] in
/-- A step outside the oracle reports nothing. -/
theorem reported_of_outside (h : s.oracle.Stacked reports) (hsame : s'.oracle = s.oracle)
    (hreport : i.report = none) (hagg : i.aggregates = false) :
    s'.oracle.Stacked (Step.pending reports i) ∧
      (i.aggregates = false → s'.oracle.currentPrice = s.oracle.currentPrice) := by
  rw [Step.pending_of_none hreport hagg, hsame]
  exact ⟨h, fun _ => rfl⟩

/-- **One step**: what is stacked are the reports that are pending afterwards, and only the
end of an aggregating block changes a price. -/
theorem reported_of_next (hnext : next i s = some s') (h : s.oracle.Stacked reports) :
    s'.oracle.Stacked (Step.pending reports i) ∧
      (i.aggregates = false → s'.oracle.currentPrice = s.oracle.currentPrice) := by
  obtain ⟨ok, heff⟩ := next_effect hnext
  cases i with
  | extrinsic origin call =>
    cases call with
    | newOracle call =>
      have hstep : s.oracle.Reported s'.oracle
          (Step.pending reports (.extrinsic origin (.newOracle call))) := by
        refine next_of_total (R := fun t => s.oracle.Reported t.oracle
          (Step.pending reports (.extrinsic origin (.newOracle call)))) hnext ?_
        simp only [Step.exec, MoneyPool.dispatch, wp_zoom]
        exact NewOracle.dispatch_reported h origin call
      exact ⟨hstep.stacked, fun _ => hstep.currentPrice⟩
    | depositLoan call =>
      refine reported_of_outside h (heff.oracle ?_ ?_) (by cases origin <;> rfl) rfl
      · rintro _ _ ⟨⟩
      · rintro _ ⟨⟩
    | genericAsset call =>
      refine reported_of_outside h (heff.oracle ?_ ?_) (by cases origin <;> rfl) rfl
      · rintro _ _ ⟨⟩
      · rintro _ ⟨⟩
  | timestamp now =>
    refine reported_of_outside h (heff.oracle ?_ ?_) rfl rfl
    · rintro _ _ ⟨⟩
    · rintro _ ⟨⟩
  | onInitialize height =>
    refine reported_of_outside h (heff.oracle ?_ ?_) rfl rfl
    · rintro _ _ ⟨⟩
    · rintro _ ⟨⟩
  | onFinalize height =>
    -- between two aggregations the end of a block does nothing
    by_cases hheight : height % aggregateInterval = 0
    · have hagg : (Step.onFinalize height : Step AccountId).aggregates = true :=
        decide_eq_true hheight
      refine ⟨?_, fun hno => Bool.noConfusion (hagg.symm.trans hno)⟩
      obtain rfl := finalized_of_next hheight h hnext
      rw [Step.pending, if_pos hagg]
      intro token
      change (s.oracle.finalized height).priceCandidates.get? token = none
      rw [Store.priceCandidates_finalized, StorageMap.get?_empty]
    · have hok : (Step.exec (.onFinalize height) : Prog .release AccountId Unit) s =
          .ok () s := by
        rw [Step.exec, zoom, onFinalize_of_ne hheight]
      rw [next, hok] at hnext
      cases hnext
      exact reported_of_outside h rfl rfl (decide_eq_false hheight)

end Steps

/-! ### Runs -/

variable [DecidableEq AccountId] [Inhabited AccountId]

/-- **What is stacked are the pending reports**, after every run. -/
theorem stacked_of_run {config : GenesisConfig AccountId} {s₀ s : RuntimeState AccountId}
    {steps : List (Step AccountId)} (hgenesis : config.build = some s₀)
    (hrun : run next steps s₀ = some s) : s.oracle.Stacked (pending steps) := by
  have hstart : s₀.oracle.Stacked [] := by
    rw [GenesisConfig.oracle_of_build hgenesis]
    exact fun _ => rfl
  exact foldl_invariant (I := fun reports (s : RuntimeState AccountId) => s.oracle.Stacked reports)
    (fun _ _ _ _ h hnext => (reported_of_next hnext h).1) hstart hrun

/-- **Every report counts once.** After every run from genesis what is stacked for a token are
the reports of it since the last aggregation, and no list is empty. Only the end of an
aggregating block changes prices. It goes through as long as no token has more reports than a
`usize` counts, makes the mean of exactly these reports the price of each token that has any,
and leaves the other prices as they are and nothing stacked. The same reports in another order
lead to the same prices. -/
theorem reports_count_once {config : GenesisConfig AccountId} {s₀ s : RuntimeState AccountId}
    {steps : List (Step AccountId)} (hgenesis : config.build = some s₀)
    (hrun : run next steps s₀ = some s) :
    (∀ token, s.oracle.priceCandidates.get token = reportsOf token (pending steps) ∧
      s.oracle.priceCandidates.get? token ≠ some []) ∧
    (∀ i s', next i s = some s' → i.aggregates = false →
      s'.oracle.currentPrice = s.oracle.currentPrice) ∧
    ∀ height, height % aggregateInterval = 0 →
      ((next (.onFinalize height) s).isSome = true ↔
        ∀ token, (reportsOf token (pending steps)).length < 2 ^ 64) ∧
      ∀ s', next (.onFinalize height) s = some s' →
        s'.oracle.priceCandidates = .empty ∧
        (∀ token, s'.oracle.currentPrice.get? token =
          if reportsOf token (pending steps) = [] then s.oracle.currentPrice.get? token
          else some (mean (reportsOf token (pending steps)))) ∧
        ∀ steps' t t', run next steps' s₀ = some t → (pending steps').Perm (pending steps) →
          t.oracle.currentPrice = s.oracle.currentPrice → next (.onFinalize height) t = some t' →
          ∀ token, t'.oracle.currentPrice.get? token = s'.oracle.currentPrice.get? token := by
  have hst := stacked_of_run hgenesis hrun
  refine ⟨fun token => ⟨hst.get token, hst.noneEmpty token⟩,
    fun i s' hnext => (reported_of_next hnext hst).2, fun height hheight => ⟨?_, ?_⟩⟩
  · rw [next_onFinalize hheight hst, ← countable_iff (Nat.two_pow_pos 64)]
    split
    · rename_i hfits
      exact iff_of_true rfl hfits
    · rename_i hno
      exact iff_of_false (fun h => nomatch h) hno
  · intro s' hnext
    obtain rfl := finalized_of_next hheight hst hnext
    refine ⟨Store.priceCandidates_finalized _ _, fun token => ?_, ?_⟩
    · change (s.oracle.finalized height).currentPrice.get? token = _
      rw [hst.noneEmpty.currentPrice_finalized, hst.get]
    · intro steps' t t' hrun' hperm hprices hnext' token
      have hst' := stacked_of_run hgenesis hrun'
      obtain rfl := finalized_of_next hheight hst' hnext'
      -- the mean of the reports does not depend on their order
      have htoken := reportsOf_perm hperm token
      change (t.oracle.finalized height).currentPrice.get? token =
        (s.oracle.finalized height).currentPrice.get? token
      rw [hst'.noneEmpty.currentPrice_finalized, hst.noneEmpty.currentPrice_finalized, hst'.get,
        hst.get, mean_perm htoken, hprices]
      refine if_congr ?_ rfl rfl
      rw [← List.length_eq_zero_iff, htoken.length_eq, List.length_eq_zero_iff]

/-- A price report. -/
def reportStep (token : StrBytes) (price : PriceInUSDT) : Step ℕ :=
  .extrinsic .none (.newOracle (.stackPriceUnsigned 1 token price))

theorem reports_count_once_example :
    ∃ s s', run next [reportStep [] 90, reportStep [66] 7, reportStep [] 120] exampleState =
        some s ∧ next (.onFinalize 5) s = some s' ∧
      s'.oracle.priceCandidates = .empty ∧ s'.oracle.currentPrice.get? [] = some 105 ∧
      s'.oracle.currentPrice.get? [66] = some 7 := by
  obtain ⟨s, hrun, hsome⟩ := exists_of_any
    (p := fun s : RuntimeState ℕ => (next (.onFinalize 5) s).isSome = true)
    (o := run next [reportStep [] 90, reportStep [66] 7, reportStep [] 120] exampleState)
    (by decide +kernel)
  obtain ⟨s', hnext⟩ := Option.isSome_iff_exists.mp hsome
  obtain ⟨-, -, hall⟩ := reports_count_once exampleConfig_build hrun
  obtain ⟨hempty, hprices, -⟩ := (hall 5 (by decide)).2 s' hnext
  exact ⟨s, s', hrun, hnext, hempty, hprices [], hprices [66]⟩

end MoneyPool
