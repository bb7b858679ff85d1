import MoneyPool.Pallet.Simulation
import MoneyPool.Averages
import MoneyPool.NewOracle.Worker

/-!
# Where prices come from

Reports are not signed. What there is against wrong ones is that the worker of a node asks only
sources that are in the storage, and that only the administrator puts a source there. A node is its
chain with the pool of the reports that its worker has made (`MoneyPool.Node`), which may come into
its blocks in any order, more than once, or never.

As long as all reports of a node are made in this way, a price that is not the one from genesis is a
price of the worker's token, and was worked out of prices that the worker was given by sources from
genesis or of the administrator (`MoneyPool.prices_come_from_sources`): it is their mean, unless
their sum comes round. The worker panics until there is a source, and never again
(`MoneyPool.worker_panics_iff`).

The pool takes a report from anybody, though, and of calls nothing but reports: exactly the calls
that an unsigned extrinsic can succeed with (`MoneyPool.unsigned_refused_iff`).
-/

namespace MoneyPool

open Pallet Pallet.Exec NewOracle

variable {AccountId : Type}

deriving instance DecidableEq for NewOracle.Call

/-! ### Sources -/

/-- The source that a step adds for a token, if it is one of the administrator that does. -/
def Step.addedSource (token : StrBytes) :
    Step AccountId → Option (StrBytes × StrBytes × List StrBytes)
  | .extrinsic .root (.newOracle (.addSource token' sourceName sourceUrl jsonPath)) =>
    if token' = token then some (sourceName, sourceUrl, jsonPath) else none
  | _ => none

section Sources

variable {t : NewOracle.Store} {token : StrBytes}

/-- An aggregation leaves the sources. -/
theorem NewOracle.Store.sources_finalized (t : NewOracle.Store) (height : BlockNumber) :
    (t.finalized height).cryptoPriceSources = t.cryptoPriceSources := by
  have hfold : ∀ (ks : List StrBytes) (t : NewOracle.Store),
      (ks.foldl NewOracle.Store.aggregated t).cryptoPriceSources = t.cryptoPriceSources := by
    intro ks
    induction ks with
    | nil => exact fun _ => rfl
    | cons k ks ih => exact fun t => ih (t.aggregated k)
  exact hfold t.priceCandidates.keys t

/-- A call of the oracle adds its source. -/
theorem NewOracle.dispatch_sources {β : Build} (origin : Origin AccountId)
    (call : NewOracle.Call) :
    wp (NewOracle.dispatch origin call : NewOracle.Prog β Unit)
      (fun _ t' => t'.cryptoPriceSources.get token = t.cryptoPriceSources.get token ++
        (Step.addedSource token (.extrinsic origin (.newOracle call))).toList)
      (fun _ t' => t'.cryptoPriceSources.get token = t.cryptoPriceSources.get token ++
        (Step.addedSource token (.extrinsic origin (.newOracle call))).toList) False t := by
  have hsame {i : Step AccountId} (hnone : i.addedSource token = none) :
      t.cryptoPriceSources.get token =
        t.cryptoPriceSources.get token ++ (i.addedSource token).toList := by
    rw [hnone]
    exact (List.append_nil _).symm
  cases call with
  | addSource token' sourceName sourceUrl jsonPath =>
    simp only [NewOracle.dispatch, addSource, wp_bind, wp_ensureRoot, wp_gets, wp_ite, wp_modify]
    refine ⟨?_, fun hne => hsame ?_⟩
    · rintro rfl
      rw [StorageMap.get_mutate, StorageMap.get_insert]
      rcases eq_or_ne token token' with rfl | hne
      · have hadded : Step.addedSource token (.extrinsic .root (.newOracle
            (.addSource token sourceName sourceUrl jsonPath)) : Step AccountId) =
              some (sourceName, sourceUrl, jsonPath) := if_pos rfl
        rw [if_pos rfl, if_pos rfl, hadded]
        refine ⟨fun _ => rfl, fun hno => ?_⟩
        rw [StorageMap.get_of_not_containsKey hno]
        rfl
      · rw [if_neg hne, if_neg hne]
        exact ⟨fun _ => hsame (if_neg hne.symm), fun _ => hsame (if_neg hne.symm)⟩
    · cases origin with
      | root => exact absurd rfl hne
      | _ => rfl
  | stackPriceUnsigned blockNumber token' price =>
    simp only [NewOracle.dispatch, stackPriceUnsigned, stackPrice, wp_bind, wp_ensureNone,
      wp_modify]
    exact ⟨fun _ => hsame (by cases origin <;> rfl), fun _ => hsame (by cases origin <;> rfl)⟩
  | stackPriceSigned blockNumber token' price =>
    simp only [NewOracle.dispatch, stackPriceSigned, wp_bind, wp_ensureSigned, wp_pure]
    exact ⟨fun _ _ => hsame (by cases origin <;> rfl), fun _ => hsame (by cases origin <;> rfl)⟩

end Sources

/-! ### The oracle after a run -/

/-- A report that is pending was made by a step. -/
theorem exists_report_of_pending {steps : List (Step AccountId)} {r : StrBytes × PriceInUSDT}
    (h : r ∈ pending steps) : ∃ i ∈ steps, i.report = some r := by
  induction steps using List.reverseRecOn with
  | nil => exact absurd h List.not_mem_nil
  | append_singleton steps i ih =>
    rw [pending, List.foldl_concat, Step.pending] at h
    split at h
    · exact absurd h List.not_mem_nil
    · rcases List.mem_append.mp h with hbefore | hlast
      · obtain ⟨j, hj, hreport⟩ := ih hbefore
        exact ⟨j, List.mem_append_left _ hj, hreport⟩
      · exact ⟨i, List.mem_append_right _ (List.mem_singleton_self i), Option.mem_toList.mp hlast⟩

/-- **The price of a token** is the one from the start, or a mean of reports of it. -/
def NewOracle.Store.PriceFrom (t₀ t : NewOracle.Store) (token : StrBytes)
    (Given : PriceInUSDT → Prop) : Prop :=
  t.currentPrice.get? token = t₀.currentPrice.get? token ∨
    ∃ prices, prices ≠ [] ∧ t.currentPrice.get? token = some (mean prices) ∧
      ∀ price ∈ prices, Given price

/-- **What the oracle has after some steps.** -/
structure OracleHistory (s₀ : RuntimeState AccountId) (steps : List (Step AccountId))
    (s : RuntimeState AccountId) : Prop where
  stacked : s.oracle.Stacked (pending steps)
  sources : ∀ token, s.oracle.cryptoPriceSources.get token =
    s₀.oracle.cryptoPriceSources.get token ++ steps.filterMap (Step.addedSource token)
  prices : ∀ token, s₀.oracle.PriceFrom s.oracle token
    fun price => ∃ i ∈ steps, i.report = some (token, price)

section Chain

variable [DecidableEq AccountId] [Inhabited AccountId] {i : Step AccountId}
  {s₀ s s' : RuntimeState AccountId} {reports : List (StrBytes × PriceInUSDT)}
  {steps : List (Step AccountId)} {token : StrBytes}

/-- The end of a block aggregates or does nothing. -/
theorem oracle_of_onFinalize {height : BlockNumber} (h : s.oracle.Stacked reports)
    (hnext : next (.onFinalize height) s = some s') :
    s' = s ∨ s' = { s with oracle := s.oracle.finalized height } := by
  by_cases hheight : height % aggregateInterval = 0
  · exact Or.inr (finalized_of_next hheight h hnext)
  · have hok : (Step.exec (.onFinalize height) : Prog .release AccountId Unit) s = .ok () s := by
      rw [Step.exec, zoom, onFinalize_of_ne hheight]
    rw [next, hok] at hnext
    cases hnext
    exact Or.inl rfl

/-- **A step adds its source**, if it has one, and leaves the others. -/
theorem sources_of_next (h : s.oracle.Stacked reports) (hnext : next i s = some s') :
    s'.oracle.cryptoPriceSources.get token =
      s.oracle.cryptoPriceSources.get token ++ (i.addedSource token).toList := by
  obtain ⟨ok, heff⟩ := next_effect hnext
  have hsame (hnone : i.addedSource token = none)
      (horacle : s'.oracle.cryptoPriceSources = s.oracle.cryptoPriceSources) :
      s'.oracle.cryptoPriceSources.get token =
        s.oracle.cryptoPriceSources.get token ++ (i.addedSource token).toList := by
    rw [hnone, horacle]
    exact (List.append_nil _).symm
  cases i with
  | extrinsic origin call =>
    cases call with
    | newOracle call =>
      refine next_of_total (R := fun t => t.oracle.cryptoPriceSources.get token =
        s.oracle.cryptoPriceSources.get token ++
          (Step.addedSource token (.extrinsic origin (.newOracle call))).toList) hnext ?_
      simp only [Step.exec, MoneyPool.dispatch, wp_zoom]
      exact NewOracle.dispatch_sources origin call
    | depositLoan call =>
      refine hsame (by cases origin <;> rfl) (congrArg _ (heff.oracle ?_ ?_))
      · rintro _ _ ⟨⟩
      · rintro _ ⟨⟩
    | genericAsset call =>
      refine hsame (by cases origin <;> rfl) (congrArg _ (heff.oracle ?_ ?_))
      · rintro _ _ ⟨⟩
      · rintro _ ⟨⟩
  | timestamp now =>
    refine hsame rfl (congrArg _ (heff.oracle ?_ ?_))
    · rintro _ _ ⟨⟩
    · rintro _ ⟨⟩
  | onInitialize height =>
    refine hsame rfl (congrArg _ (heff.oracle ?_ ?_))
    · rintro _ _ ⟨⟩
    · rintro _ ⟨⟩
  | onFinalize height =>
    rcases oracle_of_onFinalize h hnext with rfl | rfl
    · exact hsame rfl rfl
    · exact hsame rfl (NewOracle.Store.sources_finalized _ _)

/-- **A step that changes a price** makes it the mean of the pending reports. -/
theorem price_of_next (h : s.oracle.Stacked reports) (hnext : next i s = some s') :
    s.oracle.PriceFrom s'.oracle token fun price => (token, price) ∈ reports := by
  cases hagg : i.aggregates with
  | false => exact Or.inl (by rw [(reported_of_next hnext h).2 hagg])
  | true =>
    cases i with
    | onFinalize height =>
      obtain rfl := finalized_of_next (of_decide_eq_true hagg) h hnext
      have hprice := h.noneEmpty.currentPrice_finalized height token
      rw [h.get] at hprice
      by_cases hnil : reportsOf token reports = []
      · rw [if_pos hnil] at hprice
        exact Or.inl hprice
      · rw [if_neg hnil] at hprice
        refine Or.inr ⟨reportsOf token reports, hnil, hprice, fun price hmem => ?_⟩
        obtain ⟨r, hr, rfl⟩ := List.mem_map.mp hmem
        obtain ⟨hr, htoken⟩ := List.mem_filter.mp hr
        exact of_decide_eq_true htoken ▸ hr
    | _ => cases hagg

/-- **What the oracle has, it has from the steps of the run.** -/
theorem history_of_run {config : GenesisConfig AccountId} (hgenesis : config.build = some s₀)
    (hrun : run next steps s₀ = some s) : OracleHistory s₀ steps s := by
  refine history_invariant (I := fun steps s => OracleHistory s₀ steps s) ?_ ?_ hrun
  · intro steps i s s' h hnext
    have hlater : ∀ {r : StrBytes × PriceInUSDT}, (∃ j ∈ steps, j.report = some r) →
        ∃ j ∈ steps ++ [i], j.report = some r := by
      rintro r ⟨j, hj, hreport⟩
      exact ⟨j, List.mem_append_left _ hj, hreport⟩
    refine ⟨?_, fun token => ?_, fun token => ?_⟩
    · have hpending : pending (steps ++ [i]) = Step.pending (pending steps) i :=
        List.foldl_concat ..
      rw [hpending]
      exact (reported_of_next hnext h.stacked).1
    · rw [sources_of_next h.stacked hnext, h.sources token, List.filterMap_append,
        List.append_assoc]
      congr 2
    · have hprice : s.oracle.PriceFrom s'.oracle token
          fun price => (token, price) ∈ pending steps := price_of_next h.stacked hnext
      rcases hprice with hsame | ⟨prices, hne, hmean, hall⟩
      · rcases h.prices token with hstart | ⟨prices, hne, hmean, hall⟩
        · exact Or.inl (hsame.trans hstart)
        · exact Or.inr ⟨prices, hne, hsame.trans hmean, fun price hp => hlater (hall price hp)⟩
      · exact Or.inr ⟨prices, hne, hmean, fun price hp =>
          hlater (exists_report_of_pending (hall price hp))⟩
  · refine ⟨?_, fun token => (List.append_nil _).symm, fun token => Or.inl rfl⟩
    rw [GenesisConfig.oracle_of_build hgenesis]
    exact fun _ => rfl

end Chain

/-! ### Nodes -/

variable {JsonValue F : Type}

/-- **A node**: its chain, and the reports its worker has put into the pool. -/
structure Node (AccountId : Type) where
  chain : RuntimeState AccountId
  pool : List NewOracle.Call

/-- **A step of a node.** -/
inductive NodeStep (AccountId : Type) where
  /-- A step of the chain that is not an unsigned call. -/
  | chain (i : Step AccountId) : NodeStep AccountId
  /-- The worker runs after a block. -/
  | work (host : Host) (height : BlockNumber) : NodeStep AccountId
  /-- An unsigned call comes into a block. -/
  | apply (call : NewOracle.Call) : NodeStep AccountId

/-- That a step is an unsigned call. -/
def Step.isUnsigned : Step AccountId → Bool
  | .extrinsic .none _ => true
  | _ => false

/-- The step of the chain that a step of a node is, if it is one. -/
def NodeStep.chainStep : NodeStep AccountId → Option (Step AccountId)
  | .chain i => some i
  | .work _ _ => none
  | .apply call => some (.extrinsic .none (.newOracle call))

/-- What the worker hands to the pool in a state, if it is valid. -/
def Node.submitted (n : Node AccountId) (parsers : Parsers JsonValue F) (host : Host)
    (height : BlockNumber) : Option NewOracle.Call :=
  match (offchainWorker parsers host height : NewOracle.Prog .release _) n.chain.oracle with
  | .ok (some call) _ =>
    match validateUnsigned call with
    | some (.ok _) => some call
    | _ => none
  | _ => none

/-- **A transition of a node.** A call stays in the pool, and may come into any number of blocks. -/
def Node.next [DecidableEq AccountId] [Inhabited AccountId] (parsers : Parsers JsonValue F)
    (step : NodeStep AccountId) (n : Node AccountId) : Option (Node AccountId) :=
  match step with
  | .chain i =>
    if i.isUnsigned then none
    else (MoneyPool.next i n.chain).map fun s => { n with chain := s }
  | .work host height =>
    some { n with pool := n.pool ++ (n.submitted parsers host height).toList }
  | .apply call =>
    if call ∈ n.pool then
      (MoneyPool.next (.extrinsic .none (.newOracle call)) n.chain).map fun s =>
        { n with chain := s }
    else none

/-- **A price that the worker was given**, in one of its runs, by a source from the start or of the
administrator. -/
def Quoted (parsers : Parsers JsonValue F) (s₀ : RuntimeState AccountId)
    (steps : List (NodeStep AccountId)) (price : PriceInUSDT) : Prop :=
  ∃ host height source, NodeStep.work host height ∈ steps ∧
    quote parsers host source = .ok price ∧
    (source ∈ s₀.oracle.cryptoPriceSources.get workerToken ∨
      NodeStep.chain (.extrinsic .root (.newOracle
        (.addSource workerToken source.1 source.2.1 source.2.2))) ∈ steps)

theorem Quoted.mono {parsers : Parsers JsonValue F} {s₀ : RuntimeState AccountId}
    {steps steps' : List (NodeStep AccountId)} {price : PriceInUSDT}
    (h : Quoted parsers s₀ steps price) (hsub : steps ⊆ steps') :
    Quoted parsers s₀ steps' price := by
  obtain ⟨host, height, source, hwork, hquote, hsource⟩ := h
  exact ⟨host, height, source, hsub hwork, hquote, hsource.imp_right fun h => hsub h⟩

/-- **What a node has after some steps.** -/
structure NodeHistory (parsers : Parsers JsonValue F) (s₀ : RuntimeState AccountId)
    [DecidableEq AccountId] [Inhabited AccountId] (steps : List (NodeStep AccountId))
    (n : Node AccountId) : Prop where
  /-- The chain has made its steps. -/
  chain : run MoneyPool.next (steps.filterMap NodeStep.chainStep) s₀ = some n.chain
  /-- The pool has what the worker was given. -/
  pool : ∀ call ∈ n.pool, ∃ height price,
    call = .stackPriceUnsigned height workerToken price ∧ Quoted parsers s₀ steps price
  /-- So has every report on the chain. -/
  reports : ∀ i ∈ steps.filterMap NodeStep.chainStep, ∀ r, i.report = some r →
    r.1 = workerToken ∧ Quoted parsers s₀ steps r.2

section Nodes

variable [DecidableEq AccountId] [Inhabited AccountId] {parsers : Parsers JsonValue F}
  {s₀ s : RuntimeState AccountId} {n n' : Node AccountId} {steps : List (NodeStep AccountId)}
  {host : Host} {height : BlockNumber}

omit [DecidableEq AccountId] [Inhabited AccountId] in
/-- The worker submits the price of a source. -/
theorem Node.source_of_submitted {call : NewOracle.Call}
    (h : n.submitted parsers host height = some call) :
    ∃ source ∈ n.chain.oracle.cryptoPriceSources.get workerToken, ∃ price,
      quote parsers host source = .ok price ∧
        call = .stackPriceUnsigned height workerToken price := by
  unfold submitted at h
  split at h
  · rename_i given _ hx
    split at h
    · cases h
      exact ((wp_of_ok hx).mp wp_offchainWorker).2.2 call rfl
    · cases h
  · cases h

omit [DecidableEq AccountId] [Inhabited AccountId] in
/-- A step that reports is an unsigned call. -/
theorem Step.isUnsigned_of_report {i : Step AccountId} {r : StrBytes × PriceInUSDT}
    (h : i.report = some r) : i.isUnsigned = true := by
  unfold report at h
  split at h
  · rfl
  · cases h

omit [DecidableEq AccountId] [Inhabited AccountId] in
/-- A step that adds a source is a call of the administrator. -/
theorem Step.eq_of_addedSource {i : Step AccountId} {token : StrBytes}
    {source : StrBytes × StrBytes × List StrBytes} (h : i.addedSource token = some source) :
    i = .extrinsic .root (.newOracle (.addSource token source.1 source.2.1 source.2.2)) := by
  unfold addedSource at h
  split at h
  · obtain ⟨rfl, heq⟩ := Option.ite_none_right_eq_some.mp h
    cases heq
    rfl
  · cases h

omit [DecidableEq AccountId] [Inhabited AccountId] in
/-- A call of the administrator is a step of the chain of its own. -/
theorem NodeStep.mem_of_chainStep {i : Step AccountId} (hi : i.isUnsigned = false)
    (h : i ∈ steps.filterMap NodeStep.chainStep) : NodeStep.chain i ∈ steps := by
  obtain ⟨step, hmem, hstep⟩ := List.mem_filterMap.mp h
  cases step with
  | chain j =>
    cases hstep
    exact hmem
  | work host height => cases hstep
  | apply call =>
    cases hstep
    cases hi

/-- **A node keeps its history.** -/
theorem NodeHistory.next {config : GenesisConfig AccountId} (hgenesis : config.build = some s₀)
    (h : NodeHistory parsers s₀ steps n) {step : NodeStep AccountId}
    (hnext : n.next parsers step = some n') : NodeHistory parsers s₀ (steps ++ [step]) n' := by
  have hsub : steps ⊆ steps ++ [step] := List.subset_append_left ..
  have hpool : ∀ call ∈ n.pool, ∃ height price, call =
      .stackPriceUnsigned height workerToken price ∧ Quoted parsers s₀ (steps ++ [step]) price := by
    intro call hcall
    obtain ⟨height, price, heq, hquoted⟩ := h.pool call hcall
    exact ⟨height, price, heq, hquoted.mono hsub⟩
  have hreports : ∀ i ∈ steps.filterMap NodeStep.chainStep, ∀ r, i.report = some r →
      r.1 = workerToken ∧ Quoted parsers s₀ (steps ++ [step]) r.2 := by
    intro i hi r hr
    exact (h.reports i hi r hr).imp_right fun hquoted => hquoted.mono hsub
  cases step with
  | chain i =>
    obtain ⟨hsigned, hmap⟩ := Option.ite_none_left_eq_some.mp hnext
    obtain ⟨s, hs, rfl⟩ := Option.map_eq_some_iff.mp hmap
    refine ⟨?_, hpool, ?_⟩
    · rw [List.filterMap_append]
      exact run_append h.chain (run_singleton hs)
    · rw [List.filterMap_append]
      intro j hj r hr
      rcases List.mem_append.mp hj with hbefore | hlast
      · exact hreports j hbefore r hr
      · obtain rfl := List.mem_singleton.mp hlast
        exact absurd (Step.isUnsigned_of_report hr) hsigned
  | work host height =>
    obtain rfl := Option.some.inj hnext
    refine ⟨?_, fun call hcall => ?_, ?_⟩
    · rw [List.filterMap_append]
      exact (List.append_nil _).symm ▸ h.chain
    · rcases List.mem_append.mp hcall with hbefore | hlast
      · exact hpool call hbefore
      · obtain ⟨source, hsource, price, hquote, rfl⟩ :=
          Node.source_of_submitted (Option.mem_toList.mp hlast)
        refine ⟨height, price, rfl, host, height, source,
          List.mem_append_right _ (List.mem_singleton_self _), hquote, ?_⟩
        -- the source is in the storage because somebody has put it there
        rw [(history_of_run hgenesis h.chain).sources] at hsource
        rcases List.mem_append.mp hsource with hstart | hadded
        · exact Or.inl hstart
        · obtain ⟨i, hi, hi'⟩ := List.mem_filterMap.mp hadded
          obtain rfl := Step.eq_of_addedSource hi'
          exact Or.inr (hsub (NodeStep.mem_of_chainStep rfl hi))
    · rw [List.filterMap_append]
      exact (List.append_nil _).symm ▸ hreports
  | apply call =>
    obtain ⟨hcall, hmap⟩ := Option.ite_none_right_eq_some.mp hnext
    obtain ⟨s, hs, rfl⟩ := Option.map_eq_some_iff.mp hmap
    refine ⟨?_, hpool, ?_⟩
    · rw [List.filterMap_append]
      exact run_append h.chain (run_singleton hs)
    · rw [List.filterMap_append]
      intro j hj r hr
      rcases List.mem_append.mp hj with hbefore | hlast
      · exact hreports j hbefore r hr
      · obtain rfl := List.mem_singleton.mp hlast
        obtain ⟨height, price, rfl, hquoted⟩ := hpool call hcall
        cases hr
        exact ⟨rfl, hquoted⟩

/-- Documents that are the number `7`. -/
def exampleParsers : Parsers ℕ ℕ where
  parseJson text := if text = "7" then some 7 else none
  getObject _ := none
  getNumberF64 number := some number
  getBytes _ := none
  parseF64 _ := none
  scaled number := BitVec.ofNat 64 (number * 10000)

/-- A host that is answered by one source. -/
def exampleHost : Host where
  usizeBits := 64
  seedHash := 5
  timestamp := 0
  request url _ := if url = "u" then .response 200 [55] else .notSent

/-- **The worker panics exactly without a source**: after every run of the chain from genesis, it
panics if and only if genesis has no source of its token and the administrator has added none. -/
theorem worker_panics_iff {config : GenesisConfig AccountId} (hgenesis : config.build = some s₀)
    {is : List (Step AccountId)} (hrun : run next is s₀ = some s) :
    (offchainWorker parsers host height : NewOracle.Prog .release _) s.oracle = .panic ↔
      s₀.oracle.cryptoPriceSources.get workerToken = [] ∧
        ∀ i ∈ is, i.addedSource workerToken = none := by
  have hsources := (history_of_run hgenesis hrun).sources workerToken
  have hnone : s.oracle.cryptoPriceSources.get workerToken = [] ↔
      s₀.oracle.cryptoPriceSources.get workerToken = [] ∧
        ∀ i ∈ is, i.addedSource workerToken = none := by
    rw [hsources, List.append_eq_nil_iff, List.filterMap_eq_nil_iff]
  rw [← hnone]
  rcases cases_of_wp (wp_offchainWorker (s := s.oracle)) with ⟨_, _, hx, -, hne, -⟩ |
    ⟨_, _, -, hno⟩ | ⟨hx, hnil⟩
  · refine iff_of_false (fun h => ?_) hne
    rw [hx] at h
    cases h
  · exact hno.elim
  · exact iff_of_true hx hnil

/-- The administrator adds a source. -/
theorem worker_panics_iff_example :
    ∃ s, run next [.extrinsic .root (.newOracle (.addSource workerToken [115] [117] [])),
        .onFinalize 1] exampleState = some s ∧
      (offchainWorker exampleParsers exampleHost 1 : NewOracle.Prog .release _) s.oracle ≠
        .panic := by
  obtain ⟨s, hrun, -⟩ := exists_of_any (p := fun _ => True)
    (o := run next [.extrinsic .root (.newOracle (.addSource workerToken [115] [117] [])),
      .onFinalize 1] exampleState) (by decide +kernel)
  refine ⟨s, hrun, fun hpanic => ?_⟩
  obtain ⟨-, hnone⟩ := (worker_panics_iff exampleConfig_build hrun).mp hpanic
  cases hnone _ (List.mem_cons_self ..)

end Nodes

/-! ### Unsigned calls -/

/-- **The check of the pool** for the unsigned calls of the runtime. -/
def validateUnsigned : Call AccountId → Option (Except TransactionValidityError ValidTransaction)
  | .newOracle call => NewOracle.validateUnsigned call
  | _ => some (.error .noUnsignedValidator)

/-- That the pool refuses an unsigned call. -/
def Call.Refused (call : Call AccountId) : Prop := ∃ e, validateUnsigned call = some (.error e)

section Unsigned

variable [DecidableEq AccountId] [Inhabited AccountId] {s s' : RuntimeState AccountId}

/-- A call leads somewhere. -/
theorem exists_next_extrinsic (origin : Origin AccountId) (call : Call AccountId)
    (s : RuntimeState AccountId) : ∃ s', next (.extrinsic origin call) s = some s' := by
  unfold next
  split
  · exact ⟨_, rfl⟩
  · exact ⟨_, rfl⟩
  · exact ⟨s, rfl⟩

/-- Unsigned, a call of the deposit-loan pallet has no effect. -/
theorem Effect.of_unsigned {call : DepositLoan.Call AccountId} {ok : Bool}
    (h : Effect s (.extrinsic .none (.depositLoan call)) ok s') : ok = false ∧ s' = s := by
  cases h with
  | unchanged => exact ⟨rfl, rfl⟩
  | staked _ _ _ hi => cases hi
  | redeemed _ _ _ hi => cases hi

/-- A call that ends with an error and has written nothing. -/
theorem failed_of_err {i : Step AccountId} {e : DispatchError}
    (h : (i.exec : Prog .release AccountId Unit) s = .err e s) :
    i.succeeds s = false ∧ next i s = some s := by
  refine ⟨?_, ?_⟩
  · rw [Step.succeeds, h]
    rfl
  · rw [next, h]

/-- **An unsigned call that is no report** fails and does nothing. -/
theorem failed_of_refused {call : Call AccountId} (h : call.Refused) :
    (Step.extrinsic .none call).succeeds s = false ∧ next (.extrinsic .none call) s = some s := by
  cases call with
  | depositLoan call =>
    obtain ⟨s', hnext⟩ := exists_next_extrinsic .none (.depositLoan call) s
    obtain ⟨hfails, rfl⟩ := (effect_of_next hnext).of_unsigned
    exact ⟨hfails, hnext⟩
  | genericAsset call =>
    have herr : ∃ e, (GenericAsset.dispatch s.sudoKey .none call :
        GenericAsset.Prog .release AccountId Unit) s.assets = .err e s.assets := by
      cases call <;> exact ⟨_, rfl⟩
    obtain ⟨e, he⟩ := herr
    refine failed_of_err (e := e) ?_
    show zoom RuntimeState.assetsLens (GenericAsset.dispatch s.sudoKey .none call) s = _
    have hassets : RuntimeState.assetsLens.get s = s.assets := rfl
    rw [zoom, hassets, he]
  | newOracle call =>
    cases call with
    | stackPriceUnsigned block token price =>
      obtain ⟨e, he⟩ := h
      rw [validateUnsigned, NewOracle.validateUnsigned] at he
      split at he
      · cases he
      · cases he
    | _ => exact failed_of_err rfl

/-- **Of the unsigned calls exactly the reports get through.** Whatever state the chain is in, the
check of the pool refuses an unsigned call if and only if the call would fail, and then the call
would change nothing. -/
theorem unsigned_refused_iff (call : Call AccountId) (s : RuntimeState AccountId) :
    (call.Refused ↔ (Step.extrinsic .none call).succeeds s = false) ∧
      (call.Refused → next (.extrinsic .none call) s = some s) := by
  refine ⟨⟨fun h => (failed_of_refused h).1, fun hfails => ?_⟩, fun h => (failed_of_refused h).2⟩
  cases call with
  | depositLoan call => exact ⟨.noUnsignedValidator, rfl⟩
  | genericAsset call => exact ⟨.noUnsignedValidator, rfl⟩
  | newOracle call =>
    cases call with
    | stackPriceUnsigned block token price => cases hfails
    | _ => exact ⟨.call, rfl⟩

end Unsigned

end MoneyPool
