import MoneyPool.Types

/-!
# The oracle pallet

Prices come in as unsigned calls and are stacked per token; at the end of every
block whose number is a multiple of `MoneyPool.NewOracle.aggregateInterval` the
stacked prices of each token are averaged into its current price. The part of the
pallet that fetches prices over the network (`MoneyPool.NewOracle.offchainWorker`) only
submits the same unsigned calls that anybody may submit.
-/

namespace MoneyPool

namespace NewOracle

open Pallet Pallet.Exec

variable {AccountId : Type} {β : Build}

/-- `AggregateInterval`, as the runtime sets it. -/
def aggregateInterval : BlockNumber := 5

/-- **The storage** of the pallet. -/
structure Store where
  /-- The sources of each token: a name, a URL and the path of the price in the answer. -/
  cryptoPriceSources : StorageMap StrBytes (List (StrBytes × StrBytes × List StrBytes))
  /-- The prices reported since the last aggregation. -/
  priceCandidates : StorageMap StrBytes (List PriceInUSDT)
  /-- The price of each token. -/
  currentPrice : StorageMap StrBytes PriceInUSDT
  /-- The number of the next aggregating block. -/
  nextAggregateAt : BlockNumber

/-- A program of the pallet. -/
abbrev Prog (β : Build) (α : Type) : Type := Exec β Store DispatchError α

/-! ### Aggregation -/

/-- The sum of some prices, on top of an accumulator. -/
def foldPrices : List PriceInUSDT → PriceInUSDT → Prog β PriceInUSDT
  | [], acc => pure acc
  | x :: xs, acc => do
    let acc ← add acc x
    foldPrices xs acc

/-- Take the stacked prices of a token and make their mean its current price. -/
def aggregate (k : StrBytes) : Prog β Unit := do
  let pc ← gets fun s => s.priceCandidates.get k
  modify fun s => { s with priceCandidates := s.priceCandidates.remove k }
  let t ← foldPrices pc 0
  let l ← unwrap (if pc.length < 2 ^ 64 then some (BitVec.ofNat 64 pc.length) else none)
  let mean ← div t l
  if (← gets fun s => s.currentPrice.containsKey k) = true then
    modify fun s => { s with currentPrice := s.currentPrice.mutate k fun _ => mean }
  else
    modify fun s => { s with currentPrice := s.currentPrice.insert k mean }

/-- The hook at the end of a block. -/
def onFinalize (bn : BlockNumber) : Prog β Unit :=
  if bn % aggregateInterval = 0 then do
    let ks ← gets fun s => s.priceCandidates.keys
    forEach ks aggregate
    let next ← add bn aggregateInterval
    modify fun s => { s with nextAggregateAt := next }
  else pure ()

/-! ### The calls -/

/-- Add a source of prices. -/
def addSource (origin : Origin AccountId) (token sourceName sourceUrl : StrBytes)
    (jsonPath : List StrBytes) : Prog β Unit := do
  ensureRoot origin
  if (← gets fun s => s.cryptoPriceSources.containsKey token) = true then
    modify fun s => { s with cryptoPriceSources :=
      s.cryptoPriceSources.mutate token fun v => v ++ [(sourceName, sourceUrl, jsonPath)] }
  else
    modify fun s => { s with cryptoPriceSources :=
      s.cryptoPriceSources.insert token [(sourceName, sourceUrl, jsonPath)] }

/-- Stack a price. The price itself is not looked at. -/
def stackPrice (_blockNumber : BlockNumber) (token : StrBytes) (price : PriceInUSDT) :
    Prog β Unit :=
  modify fun s =>
    { s with priceCandidates := s.priceCandidates.mutate token fun v => v ++ [price] }

/-- Report a price without signing. -/
def stackPriceUnsigned (origin : Origin AccountId) (blockNumber : BlockNumber)
    (token : StrBytes) (price : PriceInUSDT) : Prog β Unit := do
  ensureNone origin
  stackPrice blockNumber token price

/-- Report a price with a signature, which has no effect. -/
def stackPriceSigned (origin : Origin AccountId) (_blockNumber : BlockNumber)
    (_token : StrBytes) (_price : PriceInUSDT) : Prog β Unit := do
  let _who ← ensureSigned origin
  pure ()

/-- The dispatchable calls. -/
inductive Call where
  | addSource (token sourceName sourceUrl : StrBytes) (jsonPath : List StrBytes) : Call
  | stackPriceUnsigned (blockNumber : BlockNumber) (token : StrBytes) (price : PriceInUSDT) : Call
  | stackPriceSigned (blockNumber : BlockNumber) (token : StrBytes) (price : PriceInUSDT) : Call

/-- What a call does. -/
def dispatch (origin : Origin AccountId) : Call → Prog β Unit
  | .addSource token sourceName sourceUrl jsonPath =>
    addSource origin token sourceName sourceUrl jsonPath
  | .stackPriceUnsigned blockNumber token price => stackPriceUnsigned origin blockNumber token price
  | .stackPriceSigned blockNumber token price => stackPriceSigned origin blockNumber token price

end NewOracle

end MoneyPool
