import MoneyPool.NewOracle.Json
import MoneyPool.Pallet.ScaleWords

/-!
# Where reports come from

After a block a node may run the worker of the oracle. The worker draws one of the sources that the
storage has for its one token, asks it for a document, looks the price up in it, and hands one
report of that price to the pool of its node. In the pool are the unsigned calls that pass
`MoneyPool.NewOracle.validateUnsigned`, each under a tag, which is the encoded report, so that no
report takes the place of another one (`MoneyPool.NewOracle.tags_tell_apart`).

What the worker is told from outside, by its host and by the parsers of documents and of numbers, is
a parameter. Numbers with a fractional part are only handed from one of these to the other.
-/

namespace MoneyPool

namespace NewOracle

open Pallet Pallet.Exec

variable {β : Build} {JsonValue F : Type}

/-! ### Sources -/

/-- How a request to a source ends. -/
inductive Request where
  | notSent : Request
  /-- There is no answer by the deadline. -/
  | late : Request
  /-- The answer does not come through. -/
  | failed : Request
  | response (code : BitVec 16) (body : List UInt8) : Request

/-- **What the host of a worker tells it.** -/
structure Host where
  /-- The number of bits in a `usize`. -/
  usizeBits : ℕ
  /-- The hash of the random seed. -/
  seedHash : BitVec 64
  /-- The time, in milliseconds. -/
  timestamp : BitVec 64
  /-- The end of a request for a URL that has a deadline. -/
  request : String → BitVec 64 → Request

/-- **What the parsers tell the worker**: about a document, and about a number with a fractional
part. -/
structure Parsers (JsonValue F : Type) where
  parseJson : String → Option JsonValue
  getObject : JsonValue → Option (List (JsonKey × JsonValue))
  getNumberF64 : JsonValue → Option F
  getBytes : JsonValue → Option StrBytes
  parseF64 : String → Option F
  /-- The number times `PRICE_SCALE`, rounded to a price. -/
  scaled : F → PriceInUSDT

/-- A text in UTF-8. -/
def fromUtf8 (bytes : List UInt8) : Option String := String.fromUTF8? ⟨bytes.toArray⟩

/-- A time some milliseconds later, at most the last one there is. -/
def addMillis (timestamp millis : BitVec 64) : BitVec 64 :=
  if timestamp.toNat + millis.toNat < 2 ^ 64 then timestamp + millis else BitVec.allOnes 64

/-- Ask a source for its document. -/
def fetchJson (parsers : Parsers JsonValue F) (host : Host) (url : StrBytes) :
    Except String JsonValue :=
  let deadline := addMillis host.timestamp 2000
  match fromUtf8 url with
  | none => .error "Invalid Remote URL"
  | some remoteUrl =>
    match host.request remoteUrl deadline with
    | .notSent => .error ""
    | .late => .error "deadline"
    | .failed => .error ""
    | .response code body =>
      if code ≠ 200 then .error "unexpected status code"
      else
        match fromUtf8 body with
        | none => .error "invalid UTF8 response"
        | some text =>
          match parsers.parseJson text with
          | none => .error "invalid JSON response"
          | some jsonData => .ok jsonData

/-- Read a price, from a number or from a text. -/
def parseField (parsers : Parsers JsonValue F) (jsonData : JsonValue) :
    Except String PriceInUSDT :=
  match parsers.getNumberF64 jsonData with
  | some number => .ok (parsers.scaled number)
  | none =>
    match parsers.getBytes jsonData with
    | some price =>
      match fromUtf8 price with
      | none => .error "parse_field: val_f64 convert to string error"
      | some text =>
        match parsers.parseF64 text with
        | none => .error "parse_field: val_u8 parsing to f64 error"
        | some number => .ok (parsers.scaled number)
    | none => .error "unknown data"

/-- **The price a source gives**: a name, a URL and the path of the price in the answer. -/
def quote (parsers : Parsers JsonValue F) (host : Host)
    (source : StrBytes × StrBytes × List StrBytes) : Except String PriceInUSDT := do
  let jsonData ← fetchJson parsers host source.2.1
  parsePrice parsers.getObject (fun r => parseField parsers r.value) jsonData source.2.2

/-! ### The worker -/

/-- The token of the worker, `BTC`. -/
def workerToken : StrBytes := [66, 84, 67]

/-- **The worker**: what it hands to the pool after a block. It panics if there is no source. -/
def offchainWorker (parsers : Parsers JsonValue F) (host : Host) (blockNumber : BlockNumber) :
    Prog β (Option Call) := do
  let r := host.seedHash.toNat % 2 ^ host.usizeBits
  let sources ← gets fun s => s.cryptoPriceSources.get workerToken
  let source ← unwrap (if sources.length = 0 then none else sources[r % sources.length]?)
  match quote parsers host source with
  | .ok price => pure (some (.stackPriceUnsigned blockNumber workerToken price))
  | .error _ => pure none

/-- **The worker** goes by the price of one of the sources, and panics exactly if there is none. -/
theorem wp_offchainWorker {parsers : Parsers JsonValue F} {host : Host} {blockNumber : BlockNumber}
    {s : Store} : wp (offchainWorker parsers host blockNumber : Prog β (Option Call))
      (fun given s' => s' = s ∧ s.cryptoPriceSources.get workerToken ≠ [] ∧
        ∀ call, given = some call → ∃ source ∈ s.cryptoPriceSources.get workerToken,
          ∃ price, quote parsers host source = .ok price ∧
            call = .stackPriceUnsigned blockNumber workerToken price)
      (fun _ _ => False) (s.cryptoPriceSources.get workerToken = []) s := by
  simp only [offchainWorker, wp_bind, wp_gets, wp_unwrap]
  refine ⟨fun source hsource => ?_, fun hnone => ?_⟩
  · obtain ⟨hsome, hget⟩ := Option.ite_none_left_eq_some.mp hsource
    have hne : s.cryptoPriceSources.get workerToken ≠ [] :=
      fun hnil => hsome (List.length_eq_zero_iff.mpr hnil)
    cases hquote : quote parsers host source with
    | ok price =>
      refine ⟨rfl, hne, ?_⟩
      rintro _ ⟨⟩
      exact ⟨source, List.mem_of_getElem? hget, price, hquote, rfl⟩
    | error e =>
      refine ⟨rfl, hne, ?_⟩
      rintro _ ⟨⟩
  · by_contra hne
    have hpos : 0 < (s.cryptoPriceSources.get workerToken).length := List.length_pos_of_ne_nil hne
    rw [if_neg hpos.ne', List.getElem?_eq_none_iff] at hnone
    exact absurd (Nat.mod_lt _ hpos) hnone.not_gt

/-! ### The pool -/

/-- What is wrong with a transaction. -/
inductive TransactionValidityError where
  /-- `InvalidTransaction::Call` -/
  | call : TransactionValidityError
  /-- `UnknownTransaction::NoUnsignedValidator` -/
  | noUnsignedValidator : TransactionValidityError
  deriving DecidableEq

/-- **What the pool is told about a transaction.** -/
structure ValidTransaction where
  priority : BitVec 64
  requires : List (List UInt8)
  /-- The tags of the transaction. -/
  provides : List (List UInt8)
  longevity : BitVec 64
  propagate : Bool
  deriving DecidableEq

/-- A string that can be encoded. -/
abbrev ShortBytes : Type := { v : StrBytes // v.length < 2 ^ 32 }

/-- The codec of a report: its block, its token and its price. -/
def reportCodec : Codec (BlockNumber × ShortBytes × PriceInUSDT) :=
  .pair (.word 4) (.pair .byteString (.word 8))

/-- **The check of the pool** for an unsigned call. It panics for a token whose length cannot be
encoded. -/
def validateUnsigned : Call → Option (Except TransactionValidityError ValidTransaction)
  | .stackPriceUnsigned block token price =>
    if h : token.length < 2 ^ 32 then
      some (.ok
        { priority := 0
          requires := []
          provides := [reportCodec.encode (block, ⟨token, h⟩, price)]
          longevity := 3
          propagate := true })
    else none
  | _ => some (.error .call)

theorem undoes_reportCodec : reportCodec.Undoes :=
  Codec.undoes_pair (Codec.undoes_word 4)
    (Codec.undoes_pair Codec.undoes_byteString (Codec.undoes_word 8))

/-- What passes the check is a report, and its tag is the report. -/
theorem provides_of_valid {call : Call} {tx : ValidTransaction}
    (h : validateUnsigned call = some (.ok tx)) :
    ∃ block token price, ∃ hlt : token.length < 2 ^ 32,
      call = .stackPriceUnsigned block token price ∧
        tx.provides = [reportCodec.encode (block, ⟨token, hlt⟩, price)] := by
  cases call with
  | stackPriceUnsigned block token price =>
    rw [validateUnsigned] at h
    split at h
    · rename_i hlt
      cases h
      exact ⟨block, token, price, hlt, rfl, rfl⟩
    · cases h
  | _ => cases h

/-- **No report takes the place of another one** in the pool: two reports have the same tag only if
they are the same. -/
theorem tags_tell_apart {call call' : Call} {tx tx' : ValidTransaction}
    (h : validateUnsigned call = some (.ok tx)) (h' : validateUnsigned call' = some (.ok tx')) :
    tx.provides = tx'.provides ↔ call = call' := by
  refine ⟨fun htags => ?_, fun heq => ?_⟩
  · obtain ⟨block, token, price, hlt, rfl, htag⟩ := provides_of_valid h
    obtain ⟨block', token', price', hlt', rfl, htag'⟩ := provides_of_valid h'
    rw [htag, htag', List.singleton_inj] at htags
    obtain ⟨rfl, hrest⟩ := Prod.mk.inj (undoes_reportCodec.injective htags)
    obtain ⟨htoken, rfl⟩ := Prod.mk.inj hrest
    rw [Subtype.mk.inj htoken]
  · obtain rfl := heq
    cases h.symm.trans h'
    rfl

/-- Two prices of one block. -/
theorem tags_tell_apart_example : ∃ tx tx',
    validateUnsigned (.stackPriceUnsigned 1 workerToken 7) = some (.ok tx) ∧
      validateUnsigned (.stackPriceUnsigned 1 workerToken 8) = some (.ok tx') ∧
      tx.provides ≠ tx'.provides := by
  have hvalid : ∀ price, ∃ tx, validateUnsigned (.stackPriceUnsigned 1 workerToken price) =
      some (.ok tx) := fun _ => ⟨_, rfl⟩
  obtain ⟨tx, h⟩ := hvalid 7
  obtain ⟨tx', h'⟩ := hvalid 8
  refine ⟨tx, tx', h, h', fun htags => ?_⟩
  cases (tags_tell_apart h h').mp htags

end NewOracle

end MoneyPool
